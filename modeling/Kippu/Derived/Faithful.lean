import Kippu.Derived.LedgerFacts

/-!
# The copy follows the ledger

One record at a time: the projection applies every record the ledger accepted,
unless it consumes a pass id of its ticket that an earlier record consumed, or gives
a metadata locator that PostgreSQL cannot store, and the copy's rows then say what
the ledger's state does. Only the flag that
forbids transfers may be left behind: the ledger clears it with the one that
forbids resale, and the copy does not.
-/

namespace Kippu.Derived

variable {config : RulesConfig} {s : Services} {c c' : Copy} {l l' : Ledger} {pass : AccessPass}

-- ---------------------------------------------------------------------------
-- Statements
-- ---------------------------------------------------------------------------

theorem exactlyOne_ok {statement : Statement} (h : statement c = .ok (1, c')) :
    exactlyOne record statement c = .ok c' := by
  simp [exactlyOne, h, bind, Except.bind, pure, Except.pure]

theorem exactlyOne_error {statement : Statement} (h : statement c = .error e) :
    exactlyOne record statement c = .error e := by
  simp [exactlyOne, h, bind, Except.bind]

theorem updateEvent_ok (h : c.events i = some row) :
    exactlyOne record (updateEvent i f) c =
      .ok { c with events := Function.update c.events i (some (f row)) } :=
  exactlyOne_ok (by simp [updateEvent, h])

theorem insertEvent_ok (hs : row.metadataLocator.all storable = true) (h : c.events i = none) :
    exactlyOne record (insertEvent i row) c =
      .ok { c with events := Function.update c.events i (some row) } :=
  exactlyOne_ok (by simp [insertEvent, hs, h])

theorem insertEvent_error (hs : ¬ row.metadataLocator.all storable = true) :
    exactlyOne record (insertEvent i row) c = .error .refused :=
  exactlyOne_error (by simp [insertEvent, hs])

theorem updateTicket_ok (h : c.tickets i = some row) (he : row.eventId = event) :
    exactlyOne record (updateTicket event i f) c =
      .ok { c with tickets := Function.update c.tickets i (some (f row)) } :=
  exactlyOne_ok (by simp [updateTicket, h, he])

theorem insertTicket_ok (h : c.tickets i = none) (he : c.events row.eventId = some e) :
    exactlyOne record (insertTicket i row) c =
      .ok { c with tickets := Function.update c.tickets i (some row) } :=
  exactlyOne_ok (by simp [insertTicket, h, he])

theorem insertTransfer_ok (h : c.transfers n = none) (he : c.events row.eventId = some e)
    (ht : c.tickets row.ticketId = some t) :
    exactlyOne record (insertTransfer n row) c =
      .ok { c with transfers := Function.update c.transfers n (some row) } :=
  exactlyOne_ok (by simp [insertTransfer, h, he, ht])

theorem AttendanceRow.count_succ_pos (row : AttendanceRow) : 0 < row.count + 1 := Nat.succ_pos _

def attended (c : Copy) (i : TicketId) (event : EventId) (recordedAt : Time) (sequence : ℕ) :
    AttendanceRow :=
  match c.attendance i with
  | some row => ⟨row.eventId, row.count + 1, recordedAt, sequence, row.count_succ_pos⟩
  | none => ⟨event, 1, recordedAt, sequence, Nat.one_pos⟩

theorem attended_count :
    (attended c i event recordedAt n).count =
      ((c.attendance i).map AttendanceRow.count).getD 0 + 1 := by
  unfold attended
  cases c.attendance i with
  | none => rfl
  | some row => rfl

theorem upsertAttendance_ok (he : c.events event = some e) (ht : c.tickets i = some t) :
    exactlyOne record (upsertAttendance i event recordedAt n) c =
      .ok { c with attendance :=
        Function.update c.attendance i (some (attended c i event recordedAt n)) } := by
  refine exactlyOne_ok ?_
  unfold upsertAttendance attended
  cases c.attendance i with
  | none => simp [he, ht]
  | some row => rfl

theorem insertPass_ok (h : c.passes key = none) (he : c.events row.eventId = some e)
    (ht : c.tickets key.1 = some t) :
    exactlyOne record (insertPass key row) c =
      .ok { c with passes := Function.update c.passes key (some row) } :=
  exactlyOne_ok (by simp [insertPass, h, he, ht])

theorem insertPass_error (h : c.passes key = some old) :
    exactlyOne record (insertPass key row) c = .error .refused :=
  exactlyOne_error (by simp [insertPass, h])

-- ---------------------------------------------------------------------------
-- What a row says
-- ---------------------------------------------------------------------------

theorem IssueTicket.placement_row (input : IssueTicket) (n : ℕ) :
    (input.row n).placement = input.placement := by
  rcases input with ⟨_, _, _, placement, _, _, _, _, _⟩
  cases placement <;> rfl

theorem IssueTicket.policy_row (input : IssueTicket) (n : ℕ) :
    (input.row n).policy = input.policy := by
  rcases input with ⟨_, _, _, _, _, _, policy, _, _⟩
  cases policy <;> rfl

/-- The ticket the ledger holds where the copy holds a row: one freed for resale is freed for
transfer too. -/
def TicketRow.freed (row : TicketRow) : Ticket :=
  { row.ticket with restrictions := ⟨row.cannotResale, row.cannotTransfer && row.cannotResale⟩ }

theorem IssueTicket.freed_row (input : IssueTicket) (n : ℕ) :
    (input.row n).freed = input.issued := by
  have hplace := input.placement_row n
  have hpolicy := input.policy_row n
  simp only [TicketRow.freed, TicketRow.ticket, IssueTicket.issued, Ticket.mk.injEq]
  refine ⟨rfl, rfl, rfl, rfl, rfl, hplace, hpolicy, ?_, rfl⟩
  simp only [IssueTicket.row, Restrictions.normalised]
  cases input.restrictions.cannotTransfer <;> simp

theorem TicketRow.freed_eq_ticket (row : TicketRow) :
    row.ticket = row.freed ↔ (row.cannotTransfer = true → row.cannotResale = true) := by
  simp only [TicketRow.freed, TicketRow.ticket, Ticket.mk.injEq, Restrictions.mk.injEq, true_and,
    and_true]
  cases row.cannotTransfer <;> cases row.cannotResale <;> simp

-- ---------------------------------------------------------------------------
-- The simulation
-- ---------------------------------------------------------------------------

structure Flags (past : List LogRecord) (i : TicketId) (row : TicketRow) : Prop where
  transfer : row.cannotTransfer =
    (past.any (·.issuesUntransferable i) && !past.any (·.removes i .cannotTransfer))
  resale : past.any (·.issuesUntransferable i) = true →
    row.cannotResale = !past.any (·.removes i .cannotResale)

/-- The copy after the log `past`, and the ledger after it. -/
structure Follows (past : List LogRecord) (l : Ledger) (c : Copy) : Prop where
  events : ∀ i, (c.events i).map EventRow.event = l.events i
  tickets : ∀ i, (c.tickets i).map TicketRow.freed = l.tickets i
  flags : ∀ i row, c.tickets i = some row → Flags past i row
  absent : ∀ i, c.tickets i = none → past.any (·.issuesUntransferable i) = false ∧
    ∀ r, past.any (·.removes i r) = false
  attendance : ∀ i, ((c.attendance i).map AttendanceRow.count).getD 0 =
    ((l.tickets i).map Ticket.attendances).getD 0
  transfers : ∀ n, past.length ≤ n → c.transfers n = none
  passes : ∀ key, (c.passes key).isSome ↔ key ∈ past.filterMap LogRecord.consumes
  ofEvent : ∀ i row, c.tickets i = some row → (c.events row.eventId).isSome

theorem Follows.empty : Follows [] .empty .empty := by
  constructor <;> simp [Copy.empty, Ledger.empty]

theorem Follows.event_row (h : Follows past l c) (he : l.events i = some e) :
    ∃ row, c.events i = some row ∧ row.event = e :=
  Option.map_eq_some_iff.mp ((h.events i).trans he)

theorem Follows.ticket_row (h : Follows past l c) (ht : l.tickets i = some t) :
    ∃ row, c.tickets i = some row ∧ row.freed = t :=
  Option.map_eq_some_iff.mp ((h.tickets i).trans ht)

theorem Follows.no_event (h : Follows past l c) (he : l.events i = none) : c.events i = none :=
  Option.map_eq_none_iff.mp ((h.events i).trans he)

theorem Follows.no_ticket (h : Follows past l c) (ht : l.tickets i = none) : c.tickets i = none :=
  Option.map_eq_none_iff.mp ((h.tickets i).trans ht)

-- ---------------------------------------------------------------------------
-- What one table's change keeps
-- ---------------------------------------------------------------------------

theorem Flags.snoc (h : Flags past i row) (hissue : r.issuesUntransferable i = false)
    (hremove : ∀ x, r.removes i x = false) : Flags (past ++ [r]) i row := by
  constructor
  · simpa [hissue, hremove] using h.transfer
  · simpa [hissue, hremove] using h.resale

structure Quiet (r : LogRecord) : Prop where
  issues : ∀ i, r.issuesUntransferable i = false
  removes : ∀ i x, r.removes i x = false
  consumes : r.consumes = none

theorem Follows.quiet (h : Follows past l c) (hr : Quiet r) : Follows (past ++ [r]) l c where
  events := h.events
  tickets := h.tickets
  flags i row hrow := (h.flags i row hrow).snoc (hr.issues i) (hr.removes i)
  absent i hi := by simpa [hr.issues, hr.removes] using h.absent i hi
  attendance := h.attendance
  transfers n hn := h.transfers n (by simp at hn; omega)
  passes key := by simpa [hr.consumes] using h.passes key
  ofEvent := h.ofEvent

theorem Follows.setEvent (h : Follows past l c) (hrow : EventRow.event row = e) :
    Follows past (l.setEvent i e) { c with events := Function.update c.events i (some row) } where
  events j := by
    by_cases hj : j = i
    · subst hj
      simp [hrow]
    · simpa [hj] using h.events j
  tickets := h.tickets
  flags := h.flags
  absent := h.absent
  attendance := h.attendance
  transfers := h.transfers
  passes := h.passes
  ofEvent j t ht := by
    by_cases hj : t.eventId = i
    · simp [hj]
    · simpa [hj] using h.ofEvent j t ht

structure Concerns (r : LogRecord) (i : TicketId) : Prop where
  issues : ∀ j ≠ i, r.issuesUntransferable j = false
  removes : ∀ j ≠ i, ∀ x, r.removes j x = false

theorem Quiet.concerns (h : Quiet r) : Concerns r i := ⟨fun j _ => h.issues j, fun j _ => h.removes j⟩

theorem Follows.setTicket (h : Follows past l c) (attends : TicketId → Option AttendanceRow)
    (taken : TicketId × PassId → Option PassRow) (hr : Concerns r i)
    (hrow : TicketRow.freed row = t) (hflags : Flags (past ++ [r]) i row)
    (he : (c.events row.eventId).isSome)
    (hatt : ((attends i).map AttendanceRow.count).getD 0 = t.attendances)
    (hother : ∀ j ≠ i, attends j = c.attendance j)
    (hpasses : ∀ key, (taken key).isSome ↔ key ∈ (past ++ [r]).filterMap LogRecord.consumes) :
    Follows (past ++ [r]) (l.setTicket i t) { c with
      tickets := Function.update c.tickets i (some row), attendance := attends,
      passes := taken } where
  events := h.events
  tickets j := by
    by_cases hj : j = i
    · subst hj
      simp [hrow]
    · simpa [hj] using h.tickets j
  flags j old hold := by
    by_cases hj : j = i
    · subst hj
      simp only [Function.update_self, Option.some.injEq] at hold
      exact hold ▸ hflags
    · exact (h.flags j old (by simpa [hj] using hold)).snoc (hr.issues j hj) (hr.removes j hj)
  absent j hnone := by
    by_cases hj : j = i
    · subst hj
      simp at hnone
    · simpa [hr.issues j hj, hr.removes j hj] using h.absent j (by simpa [hj] using hnone)
  attendance j := by
    by_cases hj : j = i
    · subst hj
      simpa using hatt
    · simpa [hj, hother j hj] using h.attendance j
  transfers n hn := h.transfers n (by simp at hn; omega)
  passes := hpasses
  ofEvent j old hold := by
    by_cases hj : j = i
    · subst hj
      simp only [Function.update_self, Option.some.injEq] at hold
      exact hold ▸ he
    · exact h.ofEvent j old (by simpa [hj] using hold)

theorem Follows.setTransfer (h : Follows past l c) (hn : n < past.length) :
    Follows past l { c with transfers := Function.update c.transfers n row } where
  events := h.events
  tickets := h.tickets
  flags := h.flags
  absent := h.absent
  attendance := h.attendance
  transfers m hm := by
    have hmn : m ≠ n := by omega
    simpa [hmn] using h.transfers m hm
  passes := h.passes
  ofEvent := h.ofEvent

theorem Follows.setCredentials (h : Follows past l c) (credentials) :
    Follows past l { c with credentials := credentials } :=
  ⟨h.events, h.tickets, h.flags, h.absent, h.attendance, h.transfers, h.passes, h.ofEvent⟩

-- ---------------------------------------------------------------------------
-- One command
-- ---------------------------------------------------------------------------

/-- The ledger's answer to a point query names the owner that the event has after the record. -/
def OwnerKnown (s : Services) (n : ℕ) (l : Ledger) : Prop :=
  ∀ i e, l.events i = some e → ∃ answer, s.getEvent n i = .ok answer ∧ answer.owner = e.owner

theorem Follows.eventChange (h : Follows past l c) (hr : Quiet r)
    (ha : l.changeEvent i f = some l') (hf : ∀ row, (g row).event = f row.event) :
    ∃ c', exactlyOne r (updateEvent i g) c = .ok c' ∧ Follows (past ++ [r]) l' c' := by
  obtain ⟨e, he, rfl⟩ := Ledger.changeEvent_eq.mp ha
  obtain ⟨row, hrow, rfl⟩ := h.event_row he
  exact ⟨_, updateEvent_ok hrow, (h.quiet hr).setEvent (hf row)⟩

theorem Follows.createEvent (h : Follows past l c) (hr : Quiet r)
    (ha : l.acceptCommand s.registrationAccount signer
      (.createEvent event salt capacity zones metadata) = some l')
    (hg : OwnerKnown s past.length l') :
    if metadata.all storable then
      ∃ c', applyCommand s past.length r (.createEvent event salt capacity zones metadata) c =
        .ok c' ∧ Follows (past ++ [r]) l' c'
    else applyCommand s past.length r (.createEvent event salt capacity zones metadata) c =
      .error .refused := by
  simp only [Ledger.acceptCommand] at ha
  split at ha
  · rename_i hnone
    cases ha
    obtain ⟨answer, hanswer, howner⟩ := hg event _ (by simp; rfl)
    simp only [applyCommand, hanswer]
    split
    · rename_i hs
      refine ⟨_, insertEvent_ok hs (h.no_event hnone), (h.quiet hr).setEvent ?_⟩
      simpa [EventRow.event] using howner
    · rename_i hs
      exact insertEvent_error hs
  · cases ha

theorem Follows.transferTicket (h : Follows past l c) (hr : Quiet r)
    (ha : l.acceptCommand s.registrationAccount signer (.transferTicket event ticket receiver) =
      some l') :
    ∃ c', applyCommand s past.length r (.transferTicket event ticket receiver) c = .ok c' ∧
      Follows (past ++ [r]) l' c' := by
  obtain ⟨t, ht, hte, rfl⟩ := Ledger.changeTicket_eq.mp ha
  obtain ⟨row, hrow, rfl⟩ := h.ticket_row ht
  have hevent : row.eventId = event := hte
  obtain ⟨e, he⟩ := Option.isSome_iff_exists.mp (h.ofEvent ticket row hrow)
  have hatt := h.attendance ticket
  rw [ht] at hatt
  have hflags := (h.flags ticket row hrow).snoc (hr.issues ticket) (hr.removes ticket)
  have hfreed : TicketRow.freed { row with holder := receiver, sequence := past.length } =
      { row.freed with holder := receiver } := rfl
  have hmoved := h.setTicket _ _ hr.concerns hfreed ⟨hflags.transfer, hflags.resale⟩
    (h.ofEvent ticket row hrow) hatt (fun _ _ => rfl) (h.quiet hr).passes
  apply Exists.intro
  constructor
  · simp only [applyCommand, hrow, Option.filter_some, hevent, decide_true, if_true]
    rw [updateTicket_ok hrow hevent]
    exact insertTransfer_ok (h.transfers _ le_rfl) (hevent ▸ he) (by simp; rfl)
  · exact hmoved.setTransfer (by simp)

theorem Follows.issueTicket (h : Follows past l c)
    (hentry : r.entry = .command operation signer (.issueTicket input))
    (ha : l.acceptCommand s.registrationAccount signer (.issueTicket input) = some l') :
    ∃ c', applyCommand s past.length r (.issueTicket input) c = .ok c' ∧
      Follows (past ++ [r]) l' c' := by
  simp only [Ledger.acceptCommand] at ha
  split at ha
  · rename_i hnone
    obtain ⟨e, he, rfl⟩ := Ledger.changeEvent_eq.mp ha
    obtain ⟨row, hrow, rfl⟩ := h.event_row he
    have hno := h.no_ticket hnone
    have habsent := h.absent input.ticket hno
    have hissue : ∀ i, r.issuesUntransferable i =
        (decide (input.ticket = i) && input.restrictions.cannotTransfer) := by
      simp [LogRecord.issuesUntransferable, hentry]
    have hremove : ∀ i x, r.removes i x = false := by simp [LogRecord.removes, hentry]
    have hconsume : r.consumes = none := by simp [LogRecord.consumes, hentry]
    have hatt := h.attendance input.ticket
    rw [hnone] at hatt
    have hflags : Flags (past ++ [r]) input.ticket (input.row past.length) := by
      constructor
      · simp [IssueTicket.row, habsent.1, habsent.2, hissue, hremove]
      · simp +contextual [IssueTicket.row, habsent.1, habsent.2, hissue, hremove]
    have hinserted := h.setTicket _ _ ⟨fun j hj => by simp [hissue, hj.symm], fun j _ => hremove j⟩
      (input.freed_row past.length) hflags (by simp [IssueTicket.row, hrow]) hatt (fun _ _ => rfl)
      (fun key => by simpa [hconsume] using h.passes key)
    apply Exists.intro
    constructor
    · simp only [applyCommand]
      rw [insertTicket_ok hno (by exact hrow)]
      exact updateEvent_ok (by exact hrow)
    · exact hinserted.setEvent rfl
  · cases ha

theorem Follows.removeRestriction (h : Follows past l c)
    (hentry : r.entry = .command operation signer (.removeRestriction event ticket restriction))
    (ha : l.acceptCommand s.registrationAccount signer
      (.removeRestriction event ticket restriction) = some l') :
    ∃ c', applyCommand s past.length r (.removeRestriction event ticket restriction) c = .ok c' ∧
      Follows (past ++ [r]) l' c' := by
  have hissue : ∀ i, r.issuesUntransferable i = false := by
    simp [LogRecord.issuesUntransferable, hentry]
  have hremove : ∀ i x, r.removes i x = (decide (ticket = i) && decide (restriction = x)) := by
    simp [LogRecord.removes, hentry]
  have hconsume : r.consumes = none := by simp [LogRecord.consumes, hentry]
  have hconcerns : Concerns r ticket :=
    ⟨fun j _ => hissue j, fun j hj x => by simp [hremove, hj.symm]⟩
  have hpasses : ∀ key, (c.passes key).isSome ↔ key ∈ (past ++ [r]).filterMap LogRecord.consumes :=
    fun key => by simpa [hconsume] using h.passes key
  cases restriction with
  | other name => simp [Ledger.acceptCommand] at ha
  | cannotResale =>
    obtain ⟨t, ht, hte, rfl⟩ := Ledger.changeTicket_eq.mp ha
    obtain ⟨row, hrow, rfl⟩ := h.ticket_row ht
    have hflags := h.flags ticket row hrow
    have hatt := h.attendance ticket
    rw [ht] at hatt
    have hfreed : TicketRow.freed { row with cannotResale := false, sequence := past.length } =
        { row.freed with restrictions := row.freed.restrictions.without .cannotResale } := by
      simp [TicketRow.freed, Restrictions.without, TicketRow.ticket, TicketRow.placement,
        TicketRow.policy]
    refine ⟨_, updateTicket_ok hrow hte, h.setTicket _ _ hconcerns hfreed ⟨?_, ?_⟩
      (h.ofEvent ticket row hrow) hatt (fun _ _ => rfl) hpasses⟩
    · simpa [hissue, hremove] using hflags.transfer
    · simp [hremove]
  | cannotTransfer =>
    obtain ⟨t, ht, hte, rfl⟩ := Ledger.changeTicket_eq.mp ha
    obtain ⟨row, hrow, rfl⟩ := h.ticket_row ht
    have hflags := h.flags ticket row hrow
    have hatt := h.attendance ticket
    rw [ht] at hatt
    have hfreed : TicketRow.freed { row with cannotTransfer := false, sequence := past.length } =
        { row.freed with restrictions := row.freed.restrictions.without .cannotTransfer } := by
      simp [TicketRow.freed, Restrictions.without, TicketRow.ticket, TicketRow.placement,
        TicketRow.policy]
    refine ⟨_, updateTicket_ok hrow hte, h.setTicket _ _ hconcerns hfreed ⟨?_, ?_⟩
      (h.ofEvent ticket row hrow) hatt (fun _ _ => rfl) hpasses⟩
    · simp [hremove]
    · simpa [hissue, hremove] using hflags.resale

theorem Follows.registerCredential (h : Follows past l c) (hr : Quiet r)
    (ha : l.acceptCommand s.registrationAccount signer (.registerCredential account registration) =
      some l') :
    ∃ c', applyCommand s past.length r (.registerCredential account registration) c = .ok c' ∧
      Follows (past ++ [r]) l' c' := by
  simp only [Ledger.acceptCommand] at ha
  split at ha
  · rename_i named hnamed
    split at ha
    · rename_i haccount
      cases ha
      simp only [applyCommand, applyRegistration, hnamed, haccount, ne_eq, not_true_eq_false, if_false,
        insertCredential]
      -- A credential registered before keeps its row.
      cases c.credentials named with
      | some row => exact ⟨c, rfl, h.quiet hr⟩
      | none => exact ⟨_, rfl, (h.quiet hr).setCredentials _⟩
    · cases ha
  · cases ha

theorem Follows.afterOther (h : Follows past l c)
    (hentry : r.entry = .command operation signer command)
    (hc : ∀ event salt capacity zones metadata,
      command ≠ .createEvent event salt capacity zones metadata)
    (ha : l.acceptCommand s.registrationAccount signer command = some l') :
    ∃ c', applyCommand s past.length r command c = .ok c' ∧ Follows (past ++ [r]) l' c' := by
  have hconsume : r.consumes = none := by simp [LogRecord.consumes, hentry]
  cases command with
  | createEvent event salt capacity zones metadata => exact absurd rfl (hc _ _ _ _ _)
  | issueTicket input => exact h.issueTicket hentry ha
  | removeRestriction event ticket restriction => exact h.removeRestriction hentry ha
  | setEventStatus event status =>
    refine h.eventChange ⟨?_, ?_, hconsume⟩ ha fun _ => rfl <;>
      simp [LogRecord.issuesUntransferable, LogRecord.removes, hentry]
  | setEventCapacity event capacity =>
    refine h.eventChange ⟨?_, ?_, hconsume⟩ ha fun _ => rfl <;>
      simp [LogRecord.issuesUntransferable, LogRecord.removes, hentry]
  | addZone event zone =>
    refine h.eventChange ⟨?_, ?_, hconsume⟩ ha fun _ => rfl <;>
      simp [LogRecord.issuesUntransferable, LogRecord.removes, hentry]
  | removeZone event zone =>
    refine h.eventChange ⟨?_, ?_, hconsume⟩ ha fun _ => rfl <;>
      simp [LogRecord.issuesUntransferable, LogRecord.removes, hentry]
  | transferTicket event ticket receiver =>
    refine h.transferTicket ⟨?_, ?_, hconsume⟩ ha <;>
      simp [LogRecord.issuesUntransferable, LogRecord.removes, hentry]
  | registerCredential account registration =>
    refine h.registerCredential ⟨?_, ?_, hconsume⟩ ha <;>
      simp [LogRecord.issuesUntransferable, LogRecord.removes, hentry]
  | other kind => simp [Ledger.acceptCommand] at ha

theorem Follows.afterCommand {r : LogRecord} (h : Follows past l c)
    (hentry : r.entry = .command operation signer command)
    (ha : l.acceptCommand s.registrationAccount signer command = some l')
    (hg : OwnerKnown s past.length l') :
    if r.storable then
      ∃ c', applyCommand s past.length r command c = .ok c' ∧ Follows (past ++ [r]) l' c'
    else applyCommand s past.length r command c = .error .refused := by
  have hconsume : r.consumes = none := by simp [LogRecord.consumes, hentry]
  cases command with
  | createEvent event salt capacity zones metadata =>
    have hquiet : Quiet r := by
      refine ⟨?_, ?_, hconsume⟩ <;>
        simp [LogRecord.issuesUntransferable, LogRecord.removes, hentry]
    simpa only [LogRecord.storable, hentry] using h.createEvent hquiet ha hg
  | _ =>
    rw [if_pos (by simp [LogRecord.storable, hentry])]
    exact h.afterOther hentry (by simp) ha

-- ---------------------------------------------------------------------------
-- One pass
-- ---------------------------------------------------------------------------

def Copy.counted (c : Copy) (n : ℕ) (event : EventId) (ticket : TicketId) (recordedAt : Time)
    (row : TicketRow) : Copy :=
  { c with
    tickets := Function.update c.tickets ticket
      (some { row with attendances := row.attendances + 1, sequence := n })
    attendance := Function.update c.attendance ticket
      (some (attended c ticket event recordedAt n)) }

/-- A pass of a ticket the copy holds is counted, and inserted unless its id is there. -/
theorem applyAttendance_eq (hrow : c.tickets pass.ticket = some row) (hevent : row.eventId = event)
    (he : (c.events event).isSome) (hr : r.event = some (event, k))
    (hp : r.presentedAt = some presentedAt) :
    applyAttendance n r pass c =
      exactlyOne r (insertPass (pass.ticket, pass.id)
        ⟨event, pass.holder, pass.notBefore, pass.notAfter, presentedAt, r.recordedAt, n⟩)
        (c.counted n event pass.ticket r.recordedAt row) := by
  obtain ⟨e, he⟩ := Option.isSome_iff_exists.mp he
  simp only [applyAttendance, hr, hp, updateTicket_ok hrow hevent]
  simp only [bind, Except.bind]
  rw [upsertAttendance_ok (by exact he) (Function.update_self ..)]
  rfl

theorem Follows.afterPass (h : Follows past l c) (hentry : r.entry = .pass pass)
    (hr : r.event = some (event, k)) (hp : r.presentedAt = some presentedAt)
    (ha : l.acceptPass config event presentedAt r.recordedAt pass = some l') :
    if (pass.ticket, pass.id) ∈ past.filterMap LogRecord.consumes then
      applyAttendance past.length r pass c = .error .refused
    else ∃ c', applyAttendance past.length r pass c = .ok c' ∧ Follows (past ++ [r]) l' c' := by
  obtain ⟨t, ht, hte, rfl⟩ := Ledger.acceptPass_eq ha
  obtain ⟨row, hrow, rfl⟩ := h.ticket_row ht
  have hevent : row.eventId = event := hte
  have he := h.ofEvent pass.ticket row hrow
  rw [hevent] at he
  rw [applyAttendance_eq hrow hevent he hr hp]
  have hkey := h.passes (pass.ticket, pass.id)
  split
  · rename_i hmem
    obtain ⟨old, hold⟩ := Option.isSome_iff_exists.mp (hkey.mpr hmem)
    exact insertPass_error hold
  · rename_i hmem
    have hnew : c.passes (pass.ticket, pass.id) = none := by
      simpa using fun hsome => hmem (hkey.mp hsome)
    obtain ⟨e, hev⟩ := Option.isSome_iff_exists.mp he
    refine ⟨_, insertPass_ok hnew hev (Function.update_self ..), ?_⟩
    have hissue : ∀ i, r.issuesUntransferable i = false := by
      simp [LogRecord.issuesUntransferable, hentry]
    have hremove : ∀ i x, r.removes i x = false := by simp [LogRecord.removes, hentry]
    have hconsume : r.consumes = some (pass.ticket, pass.id) := by
      simp [LogRecord.consumes, hentry]
    have hflags := (h.flags pass.ticket row hrow).snoc (hissue _) (hremove _)
    have hatt := h.attendance pass.ticket
    rw [ht] at hatt
    have hfreed : TicketRow.freed { row with
        attendances := row.attendances + 1, sequence := past.length } =
      { row.freed with attendances := row.freed.attendances + 1 } := rfl
    have hset := h.setTicket
      (Function.update c.attendance pass.ticket
        (some (attended c pass.ticket event r.recordedAt past.length)))
      (Function.update c.passes (pass.ticket, pass.id) (some
        ⟨event, pass.holder, pass.notBefore, pass.notAfter, presentedAt, r.recordedAt, past.length⟩))
      ⟨fun j _ => hissue j, fun j _ => hremove j⟩ hfreed
      ⟨hflags.transfer, hflags.resale⟩ (by simp [hevent, he])
      (by simpa [attended_count] using hatt) (fun j hj => by simp [hj]) (fun key => by
        by_cases hk : key = (pass.ticket, pass.id)
        · subst hk
          simp [hconsume]
        · simpa [hk, hconsume] using h.passes key)
    exact ⟨hset.events, hset.tickets, hset.flags, hset.absent, hset.attendance, hset.transfers,
      hset.passes, hset.ofEvent⟩

-- ---------------------------------------------------------------------------
-- A whole log
-- ---------------------------------------------------------------------------

/-- The tables can take a record after those of the log `past`. -/
def Fits (past : List LogRecord) (r : LogRecord) : Prop :=
  r.storable = true ∧ ∀ key ∈ r.consumes, key ∉ past.filterMap LogRecord.consumes

theorem Follows.step (h : Follows past l c) (ha : l.accept config s.registrationAccount r = some l')
    (hg : OwnerKnown s past.length l') :
    (Fits past r → ∃ c', ledgerFacts s past.length r c = .ok c' ∧ Follows (past ++ [r]) l' c') ∧
    (¬ Fits past r → ledgerFacts s past.length r c = .error .refused) := by
  unfold Ledger.accept at ha
  split at ha
  · rename_i operation signer command _ _ hentry
    have hfits : Fits past r ↔ r.storable = true := by
      simp [Fits, LogRecord.consumes, hentry]
    have hcommand := h.afterCommand hentry ha hg
    simp only [hfits, ledgerFacts, hentry]
    exact ⟨fun hs => by simpa [hs] using hcommand, fun hs => by simpa [hs] using hcommand⟩
  · rename_i pass event k presentedAt hentry hr hp
    have hfits : Fits past r ↔ (pass.ticket, pass.id) ∉ past.filterMap LogRecord.consumes := by
      simp [Fits, LogRecord.storable, LogRecord.consumes, hentry]
    have hpass := h.afterPass hentry hr hp ha
    simp only [hfits, ledgerFacts, hentry]
    exact ⟨fun hn => by rwa [if_neg hn] at hpass,
      fun hn => by rwa [if_pos (not_not.mp hn)] at hpass⟩
  · cases ha

/-- The ledger's answers to the projection, while a log is read from a place on. -/
def Known (s : Services) (config : RulesConfig) : ℕ → Ledger → List LogRecord → Prop
  | _, _, [] => True
  | n, l, r :: log => ∀ l', l.accept config s.registrationAccount r = some l' →
      OwnerKnown s n l' ∧ Known s config (n + 1) l' log

theorem known_of_answers (hanswers : s.Answers config log)
    (hlog : log = past ++ rest)
    (hpast : Ledger.empty.run config s.registrationAccount past = some l) :
    Known s config past.length l rest := by
  induction rest generalizing past l with
  | nil => trivial
  | cons r rest ih =>
    intro l' hr
    have hsplit : log = (past ++ [r]) ++ rest := by simp [hlog]
    have hrun : Ledger.empty.run config s.registrationAccount (past ++ [r]) = some l' := by
      rw [Ledger.run_append, hpast]
      simp [Ledger.run, hr]
    have hnext := ih hsplit hrun
    rw [List.length_append, List.length_singleton] at hnext
    refine ⟨?_, hnext⟩
    obtain ⟨later, final, hstart, hlater, hget⟩ := hanswers past.length (by simp [hlog])
    have htake : log.take (past.length + 1) = past ++ [r] := by
      rw [hsplit, List.take_left' (by simp)]
    rw [htake] at hstart
    obtain ⟨after, rfl⟩ := hstart
    rw [Ledger.run_append, hrun] at hlater
    -- The ledger answers with a later state, and owners never change.
    have hkept := Ledger.ownersKept_run hlater
    intro i e he
    obtain ⟨e', he', howner⟩ := hkept i e he
    exact ⟨e', hget i e' he', howner⟩

/-- The copy's tables can take a whole log. -/
def AllFit (log : List LogRecord) : Prop := PassesOnce log ∧ LocatorsStorable log

theorem allFit_snoc : AllFit (past ++ [r]) ↔ AllFit past ∧ Fits past r := by
  have hpasses : PassesOnce (past ++ [r]) ↔
      PassesOnce past ∧ ∀ key ∈ r.consumes, key ∉ past.filterMap LogRecord.consumes := by
    rw [PassesOnce, List.filterMap_append, List.nodup_append]
    cases hr : r.consumes with
    | none => simp [hr, PassesOnce]
    | some key =>
      simp only [List.filterMap_cons, hr, List.filterMap_nil, List.nodup_singleton,
        List.mem_singleton, true_and, forall_eq, Option.mem_def, Option.some.injEq, forall_eq',
        PassesOnce]
      exact and_congr_right fun _ => ⟨fun h hm => h key hm rfl, fun h a ha he => h (he ▸ ha)⟩
  have hlocators : LocatorsStorable (past ++ [r]) ↔ LocatorsStorable past ∧ r.storable = true := by
    simp [LocatorsStorable, or_imp, forall_and]
  rw [AllFit, hpasses, hlocators, AllFit, Fits]
  tauto

theorem AllFit.of_append (h : AllFit (past ++ log)) : AllFit past := by
  refine ⟨?_, fun r hr => h.2 r (List.mem_append_left _ hr)⟩
  have hpasses := h.1
  rw [PassesOnce, List.filterMap_append] at hpasses
  exact hpasses.of_append_left

theorem Follows.project (h : Follows past l c) (hk : Known s config past.length l log)
    (hrun : l.run config s.registrationAccount log = some l') (hpast : AllFit past) :
    (AllFit (past ++ log) →
      ∃ c', c.project s past.length log = .ok c' ∧ Follows (past ++ log) l' c') ∧
    (¬ AllFit (past ++ log) → c.project s past.length log = .error .refused) := by
  induction log generalizing past l c with
  | nil =>
    cases hrun
    simpa [hpast] using ⟨c, rfl, h⟩
  | cons r log ih =>
    obtain ⟨m, hm, hrest⟩ := Option.bind_eq_some_iff.mp hrun
    obtain ⟨howner, hk⟩ := hk m hm
    obtain ⟨hfits, hnot⟩ := h.step hm howner
    by_cases hr : Fits past r
    · obtain ⟨c₁, hc₁, hfollows⟩ := hfits hr
      have hnext := ih hfollows (by simpa using hk) hrest (allFit_snoc.mpr ⟨hpast, hr⟩)
      simp only [List.append_assoc, List.singleton_append, List.length_append,
        List.length_singleton] at hnext
      simpa only [Copy.project_cons, hc₁, Except.bind] using hnext
    · -- this record stops the projection
      have hstop : ¬ AllFit (past ++ r :: log) := fun hall => by
        rw [List.append_cons] at hall
        exact hr (allFit_snoc.mp hall.of_append).2
      refine ⟨fun hall => absurd hall hstop, fun _ => ?_⟩
      rw [Copy.project_cons, hnot hr]
      rfl

/-- After a log the ledger accepted, the projection's fold has a result exactly if the tables can
take the log, and it follows the ledger. -/
theorem project_accepted (hrun : Ledger.empty.run config s.registrationAccount log = some l)
    (hanswers : s.Answers config log) :
    (AllFit log → ∃ c, Copy.empty.project s 0 log = .ok c ∧ Follows log l c) ∧
    (¬ AllFit log → Copy.empty.project s 0 log = .error .refused) := by
  have hknown := known_of_answers hanswers (List.nil_append log).symm rfl
  have hnil : AllFit [] := ⟨List.nodup_nil, fun r hr => absurd hr List.not_mem_nil⟩
  simpa using Follows.empty.project hknown hrun hnil

theorem Follows.equals_iff (h : Follows log l c) : c.Equals l ↔ FreedByName log := by
  have hticket : ∀ i row, c.tickets i = some row → (row.ticket = row.freed ↔
      (log.any (·.issuesUntransferable i) → log.any (·.removes i .cannotResale) →
        log.any (·.removes i .cannotTransfer))) := by
    intro i row hrow
    obtain ⟨htransfer, hresale⟩ := h.flags i row hrow
    rw [row.freed_eq_ticket, htransfer]
    cases hissue : log.any (·.issuesUntransferable i) with
    | false => simp
    | true =>
      rw [hresale hissue]
      cases log.any (·.removes i .cannotResale) <;> cases log.any (·.removes i .cannotTransfer) <;>
        simp
  constructor
  · intro heq i hissue hresale
    cases hrow : c.tickets i with
    | none => simp [(h.absent i hrow).1] at hissue
    | some row =>
      have hsame := (heq.tickets i).trans (h.tickets i).symm
      simp only [hrow, Option.map_some, Option.some.injEq] at hsame
      exact (hticket i row hrow).mp hsame hissue hresale
  · intro hfreed
    refine ⟨h.events, fun i => ?_, h.attendance⟩
    rw [← h.tickets i]
    cases hrow : c.tickets i with
    | none => rfl
    | some row =>
      simp only [Option.map_some, Option.some.injEq]
      exact (hticket i row hrow).mpr (hfreed i)

-- ---------------------------------------------------------------------------
-- The copy reaches the end of the log, and equals the ledger
-- ---------------------------------------------------------------------------

/-- The projection applies every record of a log the ledger accepted exactly when no pass id of a
ticket is recorded twice, and every metadata locator can be stored. -/
theorem applies_every_record_iff (config : RulesConfig) (s : Services) (log : List LogRecord)
    (l : Ledger) (hrun : Ledger.empty.run config s.registrationAccount log = some l)
    (hanswers : s.Answers config log) :
    (∃ c, Copy.empty.project s 0 log = .ok c) ↔ PassesOnce log ∧ LocatorsStorable log := by
  obtain ⟨hfits, hnot⟩ := project_accepted hrun hanswers
  change _ ↔ AllFit log
  by_cases hall : AllFit log
  · obtain ⟨c, hc, -⟩ := hfits hall
    exact ⟨fun _ => hall, fun _ => ⟨c, hc⟩⟩
  · simp [hnot hall, hall]

def Ledger.services (l : Ledger) (registrationAccount : RegistrationAccount) : Services where
  getEvent _ i :=
    match l.events i with
    | some e => .ok e
    | none => .error "ERR-EventNotFound"
  registrationAccount := registrationAccount

theorem answers_services (hrun : Ledger.empty.run config registrationAccount log = some l) :
    (l.services registrationAccount).Answers config log := by
  intro n _
  refine ⟨log, l, List.take_prefix _ _, hrun, fun event e he => ?_⟩
  simp [Ledger.services, he]

def unregistered : RegistrationAccount := fun _ => .error "ERR-InvalidRegistration"

def pressTicket : List LogRecord :=
  [⟨1, 10, some (1, 0), none,
      .command 1 7 (.createEvent 1 2 none [⟨3, .unseated⟩] (some "events/1.json"))⟩,
   ⟨2, 20, some (1, 1), none, .command 2 7 (.issueTicket
      ⟨5, 1, 3, .unseated 8, 4, .granted, .unlimited none, ⟨true, true⟩, 9⟩)⟩]

def passRecord (cursor : Cursor) (notBefore : Time) : LogRecord :=
  ⟨cursor, notBefore, some (1, cursor), some notBefore, .pass ⟨6, 5, 9, notBefore, notBefore + 60⟩⟩

/-- The holder's pass 6, and once it can no longer be recorded another of the same id. -/
def reusedPass : List LogRecord := pressTicket ++ [passRecord 3 100, passRecord 4 500]

def reusedPassLedger : Ledger :=
  (Ledger.empty.run ⟨60, 100⟩ unregistered reusedPass).getD .empty

theorem run_reusedPass :
    Ledger.empty.run ⟨60, 100⟩ unregistered reusedPass = some reusedPassLedger := rfl

theorem applies_every_record_reused_pass :
    (∃ c, Copy.empty.project (reusedPassLedger.services unregistered) 0 reusedPass = .ok c) ↔
      PassesOnce reusedPass ∧ LocatorsStorable reusedPass :=
  applies_every_record_iff ⟨60, 100⟩ _ reusedPass reusedPassLedger run_reusedPass
    (answers_services run_reusedPass)

theorem reused_pass_stops_reader :
    Ledger.empty.run ⟨60, 100⟩ unregistered reusedPass = some reusedPassLedger ∧
      (reusedPassLedger.services unregistered).Answers ⟨60, 100⟩ reusedPass ∧
      ¬ ∃ c, Copy.empty.project (reusedPassLedger.services unregistered) 0 reusedPass = .ok c := by
  refine ⟨run_reusedPass, answers_services run_reusedPass, ?_⟩
  have hstops : Copy.empty.project (reusedPassLedger.services unregistered) 0 reusedPass =
      .error .refused := rfl
  simp [hstops]

/-- The copy equals the ledger after a log it accepted exactly when, besides, every ticket issued
as not transferable and freed for resale was freed for transfer by name. -/
theorem copy_equals_ledger_iff (config : RulesConfig) (s : Services) (log : List LogRecord)
    (l : Ledger) (hrun : Ledger.empty.run config s.registrationAccount log = some l)
    (hanswers : s.Answers config log) :
    (∃ c, Copy.empty.project s 0 log = .ok c ∧ c.Equals l) ↔
      (PassesOnce log ∧ LocatorsStorable log) ∧ FreedByName log := by
  obtain ⟨hfits, hnot⟩ := project_accepted hrun hanswers
  change _ ↔ AllFit log ∧ FreedByName log
  by_cases hall : AllFit log
  · obtain ⟨c, hc, hfollows⟩ := hfits hall
    simp [hc, hall, hfollows.equals_iff]
  · simp [hnot hall, hall]

/-- The ticket is freed for resale, and with that for transfer. -/
def freedForResale : List LogRecord :=
  pressTicket ++ [⟨3, 30, some (1, 2), none, .command 3 7 (.removeRestriction 1 5 .cannotResale)⟩]

def freedLedger : Ledger := (Ledger.empty.run ⟨60, 100⟩ unregistered freedForResale).getD .empty

theorem run_freedForResale :
    Ledger.empty.run ⟨60, 100⟩ unregistered freedForResale = some freedLedger := rfl

theorem copy_equals_ledger_freed_for_resale :
    (∃ c, Copy.empty.project (freedLedger.services unregistered) 0 freedForResale = .ok c ∧
      c.Equals freedLedger) ↔
      (PassesOnce freedForResale ∧ LocatorsStorable freedForResale) ∧ FreedByName freedForResale :=
  copy_equals_ledger_iff ⟨60, 100⟩ _ freedForResale freedLedger run_freedForResale
    (answers_services run_freedForResale)

theorem freed_for_resale_still_untransferable :
    Ledger.empty.run ⟨60, 100⟩ unregistered freedForResale = some freedLedger ∧
      (freedLedger.services unregistered).Answers ⟨60, 100⟩ freedForResale ∧
      ∃ c, Copy.empty.project (freedLedger.services unregistered) 0 freedForResale = .ok c ∧
        ((c.tickets 5).map TicketRow.ticket).map Ticket.restrictions = some ⟨false, true⟩ ∧
        (freedLedger.tickets 5).map Ticket.restrictions = some ⟨false, false⟩ ∧
        ¬ c.Equals freedLedger := by
  refine ⟨run_freedForResale, answers_services run_freedForResale, ?_⟩
  refine ⟨_, rfl, by decide, by decide, fun h => ?_⟩
  have hticket := congrArg (Option.map Ticket.restrictions) (h.tickets 5)
  revert hticket
  decide

end Kippu.Derived
