import Kippu.Derived.PartWay
import Kippu.Derived.Told

/-!
# Reads as of a position

In every state the readers reach, each query of the copy answers what the ledger's
log tells as far as the position the answer states: the ledger's state after that
many records, and what they last or first said. A number that JavaScript would
round refuses the answer instead.
-/

namespace Kippu.Derived

open Conc Logged

-- ---------------------------------------------------------------------------
-- Numbers
-- ---------------------------------------------------------------------------

/-- A value that JavaScript reads exactly, or the refusal of one of its numbers. -/
def Gives (x : Except ReadError α) (value : α) (numbers : List ℕ) : Prop :=
  (x = .ok value ∧ ∀ n ∈ numbers, n ≤ MAX_SAFE_INTEGER) ∨
    ∃ n ∈ numbers, MAX_SAFE_INTEGER < n ∧ x = .error (.range s!"{n} is not a safe integer")

theorem gives_int (n : ℕ) : Gives (int n) n [n] := by
  unfold int
  split
  · exact .inl ⟨rfl, by simpa⟩
  · exact .inr ⟨n, by simp, by omega, rfl⟩

theorem Gives.ok (value : α) : Gives (.ok value) value [] := .inl ⟨rfl, by simp⟩

theorem Gives.bind {x : Except ReadError α} {f : α → Except ReadError β} (hx : Gives x a ns)
    (hf : Gives (f a) b ms) : Gives (x >>= f) b (ns ++ ms) := by
  obtain ⟨rfl, hns⟩ | ⟨n, hn, hlarge, rfl⟩ := hx
  · obtain ⟨hok, hms⟩ | ⟨n, hn, hlarge, herror⟩ := hf
    · refine .inl ⟨hok, fun n hn => ?_⟩
      exact (List.mem_append.mp hn).elim (hns n) (hms n)
    · exact .inr ⟨n, List.mem_append_right _ hn, hlarge, herror⟩
  · exact .inr ⟨n, List.mem_append_left _ hn, hlarge, rfl⟩

theorem Gives.map {x : Except ReadError α} (hx : Gives x a ns) (f : α → β) :
    Gives (x.map f) (f a) ns := by
  obtain ⟨rfl, hns⟩ | ⟨n, hn, hlarge, rfl⟩ := hx
  · exact .inl ⟨rfl, hns⟩
  · exact .inr ⟨n, hn, hlarge, rfl⟩

theorem Gives.option {f : α → Except ReadError β} {g : α → β} {numbers : α → List ℕ}
    (h : ∀ a, Gives (f a) (g a) (numbers a)) (x : Option α) :
    Gives (x.mapM f) (x.map g) (x.elim [] numbers) := by
  cases x with
  | none => exact .ok none
  | some a => exact (h a).map some

theorem Gives.list {f : α → Except ReadError β} {g : α → β} {numbers : α → List ℕ}
    (h : ∀ a, Gives (f a) (g a) (numbers a)) (xs : List α) :
    Gives (xs.mapM f) (xs.map g) (xs.flatMap numbers) := by
  induction xs with
  | nil => exact .ok []
  | cons a xs ih =>
    rw [List.mapM_cons]
    exact (h a).bind (ih.map (List.cons (g a)))

theorem Gives.of_mem {x : Except ReadError α} (h : Gives x value ns)
    (hmem : ∀ n, n ∈ ns ↔ n ∈ ms) : Gives x value ms := by
  simpa only [Gives, hmem] using h

theorem Gives.readAt {result : Except ReadError α} (db : ReaderDb Copy)
    (h : Gives result value ns) : Gives (readAt db result) ⟨value, freshnessOf db⟩ ns := h.map _

theorem optional_gives (n : Option ℕ) : Gives (n.mapM int) n n.toList := by
  have := Gives.option gives_int n
  cases n <;> simpa using this

-- ---------------------------------------------------------------------------
-- What a row says
-- ---------------------------------------------------------------------------

def EventRow.projected (id : EventId) (row : EventRow) : ProjectedEvent :=
  ⟨id, row.event, row.metadataLocator, row.sequence⟩

def ProjectedEvent.numbers (event : ProjectedEvent) : List ℕ :=
  event.value.maxCapacity.toList ++ [event.value.issued, event.sequence]

theorem eventOf_gives (id : EventId) (row : EventRow) :
    Gives (eventOf id row) (row.projected id) (row.projected id).numbers :=
  (optional_gives row.maxCapacity).bind
    ((gives_int row.issued).bind ((gives_int row.sequence).bind (.ok _)))

def TicketRow.projected (id : TicketId) (row : TicketRow) : ProjectedTicket :=
  ⟨⟨row.ticket, row.sequence⟩, id⟩

def AttendancePolicy.numbers : AttendancePolicy → List ℕ
  | .single => []
  | .multiple max validUntil => max :: validUntil.toList
  | .unlimited validUntil => validUntil.toList

def ProjectedTicket.numbers (ticket : ProjectedTicket) : List ℕ :=
  ticket.value.policy.numbers ++ [ticket.value.attendances, ticket.sequence]

theorem policyOf_gives (row : TicketRow) :
    Gives (policyOf row) row.policy row.policy.numbers := by
  unfold policyOf
  cases row.policy with
  | single => exact .ok _
  | multiple max validUntil => exact (gives_int max).bind ((optional_gives validUntil).map _)
  | unlimited validUntil => exact (optional_gives validUntil).map _

theorem ticketOf_gives (id : TicketId) (row : TicketRow) :
    Gives (ticketOf id row) (row.projected id) (row.projected id).numbers :=
  (policyOf_gives row).bind
    ((gives_int row.attendances).bind ((gives_int row.sequence).bind (.ok _)))

def AttendanceRow.projected (ticket : TicketId) (row : AttendanceRow) : Projected Attendance :=
  ⟨⟨row.eventId, ticket, row.count, row.lastRecordedAt⟩, row.sequence⟩

def Projected.attendanceNumbers (a : Projected Attendance) : List ℕ :=
  [a.value.count, a.value.lastRecordedAt, a.sequence]

theorem attendanceOf_gives (ticket : TicketId) (row : AttendanceRow) :
    Gives (attendanceOf ticket row) (row.projected ticket)
      (row.projected ticket).attendanceNumbers :=
  (gives_int _).bind ((gives_int _).bind ((gives_int _).bind (.ok _)))

def PassRow.projected (key : TicketId × PassId) (row : PassRow) : Projected ConsumedPass :=
  ⟨⟨row.eventId, key.1, key.2, row.holder, row.notBefore, row.notAfter, row.presentedAt,
    row.recordedAt⟩, row.sequence⟩

def Projected.passNumbers (p : Projected ConsumedPass) : List ℕ :=
  [p.value.notBefore, p.value.notAfter, p.value.presentedAt, p.value.recordedAt, p.sequence]

theorem consumedPassOf_gives (key : TicketId × PassId) (row : PassRow) :
    Gives (consumedPassOf key row) (row.projected key) (row.projected key).passNumbers :=
  (gives_int _).bind ((gives_int _).bind ((gives_int _).bind ((gives_int _).bind
    ((gives_int _).bind (.ok _)))))

def TransferRow.projected (sequence : ℕ) (row : TransferRow) : Projected Transfer :=
  ⟨⟨row.eventId, row.ticketId, row.fromHolder, row.toHolder, row.recordedAt⟩, sequence⟩

def Projected.transferNumbers (t : Projected Transfer) : List ℕ := [t.value.recordedAt, t.sequence]

theorem transferOf_gives (sequence : ℕ) (row : TransferRow) :
    Gives (transferOf sequence row) (row.projected sequence)
      (row.projected sequence).transferNumbers :=
  (gives_int _).bind ((gives_int _).bind (.ok _))

def CredentialRow.projected (db : ReaderDb Copy) (key : AccountId × CredentialId)
    (row : CredentialRow) : Projected RegisteredCredential :=
  ⟨⟨key.1, key.2, row.registration, ((db.log.get row.sequence).map LogRow.recordedAt).getD 0⟩,
    row.sequence⟩

def Projected.credentialNumbers (p : Projected RegisteredCredential) : List ℕ :=
  [p.value.registeredAt, p.sequence]

theorem credentialOf_gives (db : ReaderDb Copy) (key : AccountId × CredentialId)
    (row : CredentialRow) : Gives (credentialOf db key row) (row.projected db key)
      (row.projected db key).credentialNumbers :=
  (gives_int _).bind ((gives_int _).bind (.ok _))

-- ---------------------------------------------------------------------------
-- What the log tells
-- ---------------------------------------------------------------------------

def lastChange [DecidableEq κ] (concerns : LogRecord → Option κ) (past : List LogRecord)
    (key : κ) : ℕ :=
  ((said concerns (fun n _ => n) past key).getLast?).getD 0

def toldEvent (past : List LogRecord) (l : Ledger) (id : EventId) : Option ProjectedEvent :=
  (l.events id).map fun event =>
    ⟨id, event, (said LogRecord.changesEvent (fun _ r => r.locator) past id).head?.join,
      lastChange LogRecord.changesEvent past id⟩

/-- Issued as not transferable, and not freed for transfer by name. -/
def untransferable (past : List LogRecord) (id : TicketId) : Bool :=
  past.any (·.issuesUntransferable id) && !past.any (·.removes id .cannotTransfer)

/-- A ticket as the ledger has it, but for the flag that the copy keeps by name. -/
def toldTicket (past : List LogRecord) (l : Ledger) (id : TicketId) : Option ProjectedTicket :=
  (l.tickets id).map fun ticket =>
    ⟨⟨{ ticket with
        restrictions := ⟨ticket.restrictions.cannotResale, untransferable past id⟩ },
      lastChange LogRecord.changesTicket past id⟩, id⟩

def toldAttendance (past : List LogRecord) (l : Ledger) (id : TicketId) :
    Option (Projected Attendance) :=
  (said LogRecord.attends (fun n r => (n, r.recordedAt)) past id).getLast?.bind fun last =>
    (l.tickets id).map fun ticket => ⟨⟨ticket.event, id, ticket.attendances, last.2⟩, last.1⟩

def toldPass (past : List LogRecord) (key : TicketId × PassId) : Option (Projected ConsumedPass) :=
  (said LogRecord.consumes (fun n r => r.passRow n) past key).getLast?.join.map (·.projected key)

def toldCredential (s : Services) (past : List LogRecord) (key : AccountId × CredentialId) :
    Option (Projected RegisteredCredential) :=
  (said (LogRecord.registers s) (fun n r => r.credentialRow n) past key).head?.join.bind fun row =>
    past[row.sequence]?.map fun r =>
      ⟨⟨key.1, key.2, row.registration, r.recordedAt⟩, row.sequence⟩

def toldTransfers (config : RulesConfig) (s : Services) (past : List LogRecord) (ticket : TicketId)
    (since till : ℤ) : List (Projected Transfer) :=
  past.zipIdx.filterMap fun (r, n) =>
    ((r.transferRow (holderAfter config s.registrationAccount (past.take n))).filter fun row =>
      row.ticketId = ticket ∧ since ≤ row.recordedAt ∧ row.recordedAt ≤ till).map (·.projected n)

def transferRows (config : RulesConfig) (s : Services) (past : List LogRecord) (ticket : TicketId)
    (since till : ℤ) : List (ℕ × TransferRow) :=
  past.zipIdx.filterMap fun (r, n) =>
    ((r.transferRow (holderAfter config s.registrationAccount (past.take n))).filter fun row =>
      row.ticketId = ticket ∧ since ≤ row.recordedAt ∧ row.recordedAt ≤ till).map (n, ·)

def firstRecord (past : List LogRecord) (id : EventId) : WithTop ℕ :=
  (said (fun r : LogRecord => r.event.map Prod.fst) (fun n _ => n) past id).head?

variable {s : Services} {config : RulesConfig} {l : Ledger} {past : List LogRecord} {c : Copy}

theorem Told.event (h : Told config s past c) (hf : Follows past l c) (id : EventId) :
    (c.events id).map (·.projected id) = toldEvent past l id := by
  rw [toldEvent, ← hf.events id, lastChange, ← h.changed id, ← h.located id]
  cases c.events id <;> rfl

theorem Told.ticket_eq (h : Told config s past c) (hf : Follows past l c) (id : TicketId) :
    (c.tickets id).map (·.projected id) = toldTicket past l id := by
  rw [toldTicket, ← hf.tickets id, lastChange, ← h.ticket id]
  cases hrow : c.tickets id with
  | none => rfl
  | some row =>
    have hflag : row.cannotTransfer = untransferable past id := (hf.flags id row hrow).transfer
    simp [TicketRow.projected, TicketRow.freed, ← hflag, TicketRow.ticket]

theorem Told.attendance (h : Told config s past c) (hf : Follows past l c) (id : TicketId) :
    (c.attendance id).map (·.projected id) = toldAttendance past l id := by
  rw [toldAttendance, ← h.attended id]
  cases hrow : c.attendance id with
  | none => rfl
  | some row =>
    obtain ⟨held, hheld, hof⟩ := h.ofTicket id row hrow
    have hcount := hf.attendance id
    rw [← hf.tickets id, hrow, hheld] at hcount
    rw [← hf.tickets id, hheld]
    simp only [Option.map_some, Option.getD_some] at hcount
    simp only [AttendanceRow.projected, hof, hcount, Option.map_some, Option.bind_some]
    rfl

theorem Told.pass (h : Told config s past c) (key : TicketId × PassId) :
    (c.passes key).map (·.projected key) = toldPass past key := by
  rw [toldPass, ← h.passes key]
  cases c.passes key <;> rfl

theorem mem_keys_of_row {κ ρ : Type} [DecidableEq κ] {concerns : LogRecord → Option κ}
    {tells : ℕ → LogRecord → α} {g : ρ → α} {x : Option ρ} {told : Option α} {key : κ} {row : ρ}
    (h : x.map g = told) (htold : ∀ a, told = some a → a ∈ said concerns tells past key)
    (hrow : x = some row) : key ∈ past.filterMap concerns :=
  mem_keys_of_said (htold (g row) (by rw [← h, hrow]; rfl))

theorem transferRows_map (ticket : TicketId) (since till : ℤ) :
    (transferRows config s past ticket since till).map (fun x => x.2.projected x.1) =
      toldTransfers config s past ticket since till := by
  simp only [transferRows, toldTransfers, List.map_filterMap, Option.map_map]
  rfl

theorem Told.transferRows (h : Told config s past c) (ticket : TicketId) (since till : ℤ) :
    Selects c.transfers
      (fun _ row => row.ticketId = ticket ∧ since ≤ row.recordedAt ∧ row.recordedAt ≤ till)
      (fun sequence _ => sequence) (transferRows config s past ticket since till) where
  mem n row := by
    simp only [Derived.transferRows, List.mem_filterMap, Prod.exists, List.mem_zipIdx_iff_getElem?,
      Option.map_eq_some_iff, Option.filter_eq_some_iff, decide_eq_true_eq, Prod.mk.injEq,
      h.transfers, Option.bind_eq_some_iff]
    constructor
    · rintro ⟨r, m, hr, row', ⟨hrow, hshown⟩, rfl, rfl⟩
      exact ⟨⟨r, hr, hrow⟩, hshown⟩
    · rintro ⟨⟨r, hr, hrow⟩, hshown⟩
      exact ⟨r, n, hr, row, ⟨hrow, hshown⟩, rfl, rfl⟩
  ordered := by
    refine List.pairwise_filterMap.mpr ((zipIdx_ordered past).imp fun {a b} hab x hx y hy => ?_)
    obtain ⟨row, -, rfl⟩ := Option.map_eq_some_iff.mp hx
    obtain ⟨row', -, rfl⟩ := Option.map_eq_some_iff.mp hy
    exact hab

-- ---------------------------------------------------------------------------
-- The store
-- ---------------------------------------------------------------------------

variable {log : LogReader} {db : ReaderDb Copy} {n : ℕ}

theorem getElem?_take_eq_some {xs : List α} {m n : ℕ} {a : α} :
    (xs.take n)[m]? = some a ↔ m < n ∧ xs[m]? = some a := by
  rw [List.getElem?_take]
  split <;> simp [*]

theorem Told.credential (h : Told config s (log.records.take n) db.copy)
    (hrows : ∀ i < n, db.log.get i = (log.records[i]?).map LogRecord.row)
    (key : AccountId × CredentialId) :
    (db.copy.credentials key).map (·.projected db key) =
      toldCredential s (log.records.take n) key := by
  have hfirst := h.credentials key
  rw [toldCredential, ← hfirst]
  cases hrow : db.copy.credentials key with
  | none => rfl
  | some row =>
    rw [hrow] at hfirst
    obtain ⟨m, r, hr, -, hsaid⟩ := mem_said.mp (List.mem_of_head? hfirst.symm)
    have hm : row.sequence = m := by
      unfold LogRecord.credentialRow at hsaid
      split at hsaid
      · rw [← Option.some.inj hsaid]
      · cases hsaid
    obtain ⟨hlt, hr⟩ := getElem?_take_eq_some.mp hr
    simp only [Option.map_some, Option.join_some, Option.bind_some, CredentialRow.projected, hm]
    rw [List.getElem?_take_of_lt hlt, hrows m hlt, hr]
    rfl

theorem created_eq_firstRecord (hids : db.log.ids = Finset.range n)
    (hrows : ∀ i < n, db.log.get i = (log.records[i]?).map LogRecord.row) (id : EventId) :
    DerivedQueries.created db id = firstRecord (log.records.take n) id := by
  refine min_eq_head? said_ordered fun i => ?_
  simp only [hids, Finset.mem_filter, Finset.mem_range, mem_said]
  constructor
  · rintro ⟨hi, hnames⟩
    rw [hrows i hi] at hnames
    obtain ⟨r, hr⟩ : ∃ r, log.records[i]? = some r := by
      cases hr : log.records[i]? with
      | none => simp [hr] at hnames
      | some r => exact ⟨r, rfl⟩
    refine ⟨i, r, getElem?_take_eq_some.mpr ⟨hi, hr⟩, ?_, rfl⟩
    simpa [hr, LogRecord.row] using hnames
  · rintro ⟨m, r, hr, hnames, rfl⟩
    obtain ⟨hm, hr⟩ := getElem?_take_eq_some.mp hr
    refine ⟨hm, ?_⟩
    rw [hrows m hm, hr]
    simpa [LogRecord.row] using hnames

-- ---------------------------------------------------------------------------
-- Lists
-- ---------------------------------------------------------------------------

def Answered (query : Read α → Prop) (told : DerivedRead α) (numbers : List ℕ) : Prop :=
  ∃ answer, (∀ other, query other ↔ other = answer) ∧ Gives answer told numbers

section

variable {κ ρ β : Type} [LinearOrder β] {table : κ → Option ρ} {chosen : κ → ρ → Prop}
  {orderBy : κ → ρ → β} {project : κ → ρ → α} {f : κ × ρ → Except ReadError α}
  {numbers : α → List ℕ}

theorem answered_rows {rows : List (κ × ρ)} (hrows : Selects table chosen orderBy rows)
    (hf : ∀ x, Gives (f x) (project x.1 x.2) (numbers (project x.1 x.2))) :
    Answered (fun answer => ∃ rows, Selects table chosen orderBy rows ∧
        answer = readAt db (rows.mapM f))
      ⟨rows.map fun x => project x.1 x.2, freshnessOf db⟩
      ((rows.map fun x => project x.1 x.2).flatMap numbers) := by
  refine ⟨readAt db (rows.mapM f), fun other => ⟨?_, ?_⟩, ?_⟩
  · rintro ⟨rows', hrows', rfl⟩
    rw [hrows.unique hrows']
  · rintro rfl
    exact ⟨rows, hrows, rfl⟩
  · rw [List.flatMap_map]
    exact (Gives.list hf rows).readAt db

theorem answered_list [DecidableEq κ] {keys : List κ} {told : κ → Option α} (keyOf : α → κ)
    (shown : α → Prop) (orderOf : α → β) (hkeys : ∀ key row, table key = some row → key ∈ keys)
    (htold : ∀ key, (table key).map (project key) = told key)
    (hkey : ∀ key row, keyOf (project key row) = key)
    (horder : ∀ a b, shown a → shown b → orderOf a = orderOf b → keyOf a = keyOf b)
    (hf : ∀ x, Gives (f x) (project x.1 x.2) (numbers (project x.1 x.2))) :
    ∃ facts : List α, (∀ a, a ∈ facts ↔ told (keyOf a) = some a ∧ shown a) ∧
      (facts.Pairwise fun a b => orderOf a < orderOf b) ∧
      Answered (fun answer => ∃ rows, Selects table (fun key row => shown (project key row))
        (fun key row => orderOf (project key row)) rows ∧ answer = readAt db (rows.mapM f))
        ⟨facts, freshnessOf db⟩ (facts.flatMap numbers) := by
  obtain ⟨rows, hsel⟩ := Selects.exists (fun key row => shown (project key row))
    (fun key row => orderOf (project key row)) hkeys fun key row key' row' _ hrow _ hrow' heq => by
      simpa only [hkey] using horder _ _ hrow hrow' heq
  exact ⟨_, hsel.mem_map htold hkey fun _ _ => Iff.rfl, List.pairwise_map.mpr hsel.ordered,
    answered_rows hsel hf⟩

end

open DerivedQueries

/-- Every query answers as the log tells, as far as it was read, and the ledger after that. -/
structure ReadsAsOf (config : RulesConfig) (s : Services) (past : List LogRecord) (l : Ledger)
    (db : ReaderDb Copy) : Prop where
  event : ∀ id, Gives (event db id) ⟨toldEvent past l id, freshnessOf db⟩
    ((toldEvent past l id).elim [] ProjectedEvent.numbers)
  ticket : ∀ id, Gives (ticket db id) ⟨toldTicket past l id, freshnessOf db⟩
    ((toldTicket past l id).elim [] ProjectedTicket.numbers)
  attendance : ∀ id, Gives (attendance db id) ⟨toldAttendance past l id, freshnessOf db⟩
    ((toldAttendance past l id).elim [] Projected.attendanceNumbers)
  consumedPass : ∀ ticket pass, Gives (DerivedQueries.consumedPass db ticket pass)
    ⟨toldPass past (ticket, pass), freshnessOf db⟩
    ((toldPass past (ticket, pass)).elim [] Projected.passNumbers)
  credential : ∀ account id, Gives (credential db account id)
    ⟨(toldCredential s past (account, id)).map fun p => ⟨p.value.registration, p.sequence⟩,
      freshnessOf db⟩
    ((toldCredential s past (account, id)).elim [] Projected.credentialNumbers)
  /-- Every ticket the account holds on the ledger, by event and ticket. -/
  holdings : ∀ account, ∃ told : List ProjectedTicket,
    (∀ t, t ∈ told ↔ toldTicket past l t.id = some t ∧ t.value.holder = account) ∧
      (told.Pairwise fun a b => toLex (a.value.event, a.id) < toLex (b.value.event, b.id)) ∧
      Answered (Holdings db account) ⟨told, freshnessOf db⟩ (told.flatMap ProjectedTicket.numbers)
  /-- Every event the account owns on the ledger, the latest first. -/
  eventsOwnedBy : ∀ account, ∃ told : List ProjectedEvent,
    (∀ e, e ∈ told ↔ toldEvent past l e.id = some e ∧ e.value.owner = account) ∧
      (told.Pairwise fun a b => toLex (OrderDual.toDual (firstRecord past a.id), a.id) <
        toLex (OrderDual.toDual (firstRecord past b.id), b.id)) ∧
      Answered (EventsOwnedBy db account) ⟨told, freshnessOf db⟩
        (told.flatMap ProjectedEvent.numbers)
  transfers : ∀ ticket since till, Answered (Transfers db ticket since till)
    ⟨toldTransfers config s past ticket since till, freshnessOf db⟩
    ((toldTransfers config s past ticket since till).flatMap Projected.transferNumbers)
  /-- Every credential of the account, in the order of registration. -/
  credentials : ∀ account, ∃ told : List (Projected RegisteredCredential),
    (∀ p, p ∈ told ↔ toldCredential s past (p.value.account, p.value.credential) = some p ∧
      p.value.account = account) ∧
      (told.Pairwise fun a b => toLex (a.sequence, a.value.credential) <
        toLex (b.sequence, b.value.credential)) ∧
      Answered (Credentials db account) ⟨told, freshnessOf db⟩
        (told.flatMap Projected.credentialNumbers)

theorem readsAsOf (h : Told config s (log.records.take n) db.copy)
    (hf : Follows (log.records.take n) l db.copy) (hids : db.log.ids = Finset.range n)
    (hrows : ∀ i < n, db.log.get i = (log.records[i]?).map LogRecord.row) :
    ReadsAsOf config s (log.records.take n) l db where
  event id := by
    rw [← h.event hf id, Option.elim_map]
    exact (Gives.option (eventOf_gives id) _).readAt db
  ticket id := by
    rw [← h.ticket_eq hf id, Option.elim_map]
    exact (Gives.option (ticketOf_gives id) _).readAt db
  attendance id := by
    rw [← h.attendance hf id, Option.elim_map]
    exact (Gives.option (attendanceOf_gives id) _).readAt db
  consumedPass ticket pass := by
    rw [← h.pass (ticket, pass), Option.elim_map]
    exact (Gives.option (consumedPassOf_gives (ticket, pass)) _).readAt db
  credential account id := by
    rw [← h.credential hrows (account, id), Option.elim_map, Option.map_map]
    refine (Gives.option (fun row => ?_) _).readAt db
    refine ((credentialOf_gives db (account, id) row).bind
      ((gives_int row.sequence).map _)).of_mem fun m => ?_
    simp [Projected.credentialNumbers, CredentialRow.projected]
  holdings account := by
    refine answered_list ProjectedTicket.id (fun t => t.value.holder = account)
      (fun t => toLex (t.value.event, t.id))
      (fun key row => mem_keys_of_row (h.ticket key) fun _ => List.mem_of_getLast?)
      (h.ticket_eq hf) (fun _ _ => rfl) (fun a b _ _ heq => ?_) fun x => ticketOf_gives x.1 x.2
    exact (Prod.mk.inj (toLex.injective heq)).2
  eventsOwnedBy account := by
    unfold EventsOwnedBy
    rw [funext (created_eq_firstRecord hids hrows)]
    refine answered_list ProjectedEvent.id (fun e => e.value.owner = account)
      (fun e => toLex (OrderDual.toDual (firstRecord (log.records.take n) e.id), e.id))
      (fun key row => mem_keys_of_row (h.changed key) fun _ => List.mem_of_getLast?)
      (h.event hf) (fun _ _ => rfl) (fun a b _ _ heq => ?_) fun x => eventOf_gives x.1 x.2
    exact (Prod.mk.inj (toLex.injective heq)).2
  transfers ticket since till := by
    rw [← transferRows_map]
    exact answered_rows (h.transferRows ticket since till) fun x => transferOf_gives x.1 x.2
  credentials account := by
    refine answered_list (fun p => (p.value.account, p.value.credential))
      (fun p => p.value.account = account) (fun p => toLex (p.sequence, p.value.credential))
      (fun key row => mem_keys_of_row (h.credentials key) fun _ => List.mem_of_head?)
      (h.credential hrows) (fun _ _ => rfl) (fun a b ha hb heq => ?_)
      fun x => credentialOf_gives db x.1 x.2
    exact Prod.ext (ha.trans hb.symm) (Prod.mk.inj (toLex.injective heq)).2

-- ---------------------------------------------------------------------------
-- Every run
-- ---------------------------------------------------------------------------

theorem accepted_take (h : (Ledger.empty.run config s.registrationAccount log.records).isSome)
    (n : ℕ) : ∃ l, Ledger.empty.run config s.registrationAccount (log.records.take n) = some l := by
  rw [← List.take_append_drop n log.records, Ledger.run_append] at h
  cases hrun : Ledger.empty.run config s.registrationAccount (log.records.take n) with
  | none => simp [hrun] at h
  | some l => exact ⟨l, rfl⟩

theorem freshnessOf_eq (h : ReadTo log [ledgerFacts s] .empty db) :
    freshnessOf db = ⟨log.cursorAt db.nextSequence, (log.records.take db.nextSequence).length,
      (log.records.take db.nextSequence).getLast?.map LogRecord.recordedAt⟩ := by
  have hle := h.copied.le
  rw [freshnessOf, h.cursor, List.length_take_of_le hle]
  congr 1
  cases hn : db.nextSequence with
  | zero => rfl
  | succ m =>
    have hm : m < log.records.length := by omega
    have hrow := h.copied.rows m (by omega)
    rw [List.getLast?_take]
    simp [hrow, hm, LogRecord.row]

/-- In every state that any readers of one store reach, whatever their batches and whatever failed
or stopped: an answer states the position of the copy, with the cursor and the time of the last
record before it, and every query answers what the ledger was after that many records and what they
said. -/
theorem reads_as_of_position (config : RulesConfig) (s : Services) (log : LogReader)
    (haccepted : (Ledger.empty.run config s.registrationAccount log.records).isSome)
    (hanswers : s.Answers config log.records) (c c' : Config (readersOf (runLedgerFacts s)))
    (hinit : Initial (fun d => d = ⟨.migrated .empty, log⟩) c) (hsteps : Steps AnyStep c c') :
    let db := c'.world.db
    let past := log.records.take db.nextSequence
    freshnessOf db = ⟨log.cursorAt db.nextSequence, past.length,
        past.getLast?.map LogRecord.recordedAt⟩ ∧
      ∃ l, Ledger.empty.run config s.registrationAccount past = some l ∧
        ReadsAsOf config s past l db := by
  intro db past
  have hread := readTo_reached (runLedgerFacts_applies log .empty) hinit hsteps
  obtain ⟨l, hl⟩ := accepted_take haccepted db.nextSequence
  have hanswers' : s.Answers config past := by
    rw [← List.take_append_drop db.nextSequence log.records] at hanswers
    exact hanswers.take
  have hfold : Copy.empty.project s 0 past = .ok db.copy := hread.copied.fold
  exact ⟨freshnessOf_eq hread, l, hl, readsAsOf (told_of_project hl hanswers' hfold)
    (follows_of_project hl hanswers' hfold) hread.copied.ids hread.copied.rows⟩

def transferredLedger : Ledger :=
  (Ledger.empty.run ⟨60, 100⟩ unregistered transferredTicket.records).getD .empty

theorem run_transferredTicket :
    Ledger.empty.run ⟨60, 100⟩ unregistered transferredTicket.records = some transferredLedger :=
  rfl

abbrev transferredServices : Services := transferredLedger.services unregistered

def migratedServices : Config (readersOf (runLedgerFacts transferredServices)) where
  world := ⟨⟨.migrated .empty, transferredTicket⟩, fun _ => [], 2, 0⟩
  procs _ := none
  reqs _ := none

def threeApplied : List (Label (readersOf (runLedgerFacts transferredServices))) :=
  [.start ⟨3, Nat.succ_pos 2⟩, .step 0 .ok, .step 0 .ok, .step 0 .ok, .step 0 (.order []),
   .step 0 (.reply ⟨true, true, 3 * 4 + 3⟩), .step 0 (.order []), .step 0 .ok,
   .step 0 (.order []), .step 0 .ok, .step 0 (.order []), .step 0 .ok, .step 0 (.order []),
   .step 0 .ok, .step 0 (.order []), .step 0 .ok, .step 0 (.order []), .step 0 .ok,
   .step 0 (.order []), .step 0 (.order []), .step 0 .ok, .step 0 (.order []), .step 0 .ok,
   .step 0 .ok, .step 0 .ok, .step 0 .ok, .step 0 .ok]

theorem run_threeApplied : (run migratedServices threeApplied).isSome := by decide

def threeRead : Config (readersOf (runLedgerFacts transferredServices)) :=
  (run migratedServices threeApplied).get run_threeApplied

theorem reads_as_of_position_transferred :
    let db := threeRead.world.db
    freshnessOf db = ⟨3, 3, some 30⟩ ∧
      Answered (Transfers db 5 0 100) ⟨[⟨⟨1, 5, 9, 8, 30⟩, 2⟩], ⟨3, 3, some 30⟩⟩ [30, 2] := by
  have hthree : threeRead.world.db.nextSequence = 3 := by decide
  obtain ⟨hfresh, l, -, hreads⟩ := reads_as_of_position ⟨60, 100⟩ transferredServices
    transferredTicket (Option.isSome_of_eq_some run_transferredTicket)
    (answers_services run_transferredTicket) migratedServices threeRead
    ⟨rfl, fun _ => rfl, fun _ => rfl, fun _ => rfl⟩
    (Steps.of_run (Option.some_get run_threeApplied).symm)
  rw [hthree] at hfresh hreads
  have htransfers := hreads.transfers 5 0 100
  rw [hfresh] at htransfers
  exact ⟨hfresh, htransfers⟩

end Kippu.Derived
