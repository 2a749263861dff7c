import Kippu.Derived.Consistent
import Kippu.Derived.Faithful
import Kippu.Derived.Queries

/-!
# What the log tells

What a derived query is to answer, said from the log as far as the copy has read
it and the ledger after that. One record rewrites the rows it concerns of each
table; the invariant, that each table holds what was last or first said, follows
for the record, and so for the log.
-/

namespace Kippu.Derived

open Logged

-- ---------------------------------------------------------------------------
-- What a record says
-- ---------------------------------------------------------------------------

def LogRecord.changesEvent (record : LogRecord) : Option EventId :=
  match record.entry with
  | .command _ _ command =>
    match command with
    | .createEvent event .. | .setEventStatus event _ | .setEventCapacity event _
    | .addZone event _ | .removeZone event _ => some event
    | .issueTicket input => some input.event
    | _ => none
  | _ => none

def LogRecord.changesTicket (record : LogRecord) : Option TicketId :=
  match record.entry with
  | .command _ _ command =>
    match command with
    | .issueTicket input => some input.ticket
    | .transferTicket _ ticket _ | .removeRestriction _ ticket _ => some ticket
    | _ => none
  | .pass pass => some pass.ticket
  | .other => none

def LogRecord.attends (record : LogRecord) : Option TicketId := record.consumes.map Prod.fst

def LogRecord.registers (s : Services) (record : LogRecord) : Option (AccountId × CredentialId) :=
  match record.entry with
  | .command _ _ (.registerCredential _ registration) =>
    (s.registrationAccount registration).toOption
  | _ => none

def LogRecord.locator (record : LogRecord) : Option Locator :=
  match record.entry with
  | .command _ _ (.createEvent _ _ _ _ metadata) => metadata
  | _ => none

def LogRecord.credentialRow (sequence : ℕ) (record : LogRecord) : Option CredentialRow :=
  match record.entry with
  | .command _ _ (.registerCredential _ registration) => some ⟨registration, sequence⟩
  | _ => none

def LogRecord.passRow (sequence : ℕ) (record : LogRecord) : Option PassRow :=
  match record.entry, record.event, record.presentedAt with
  | .pass pass, some (event, _), some presentedAt =>
    some ⟨event, pass.holder, pass.notBefore, pass.notAfter, presentedAt, record.recordedAt,
      sequence⟩
  | _, _, _ => none

def LogRecord.transferRow (holder : TicketId → Option AccountId) (record : LogRecord) :
    Option TransferRow :=
  match record.entry with
  | .command _ _ (.transferTicket event ticket receiver) =>
    (holder ticket).map fun fromHolder => ⟨event, ticket, fromHolder, receiver, record.recordedAt⟩
  | _ => none

def Copy.holder (c : Copy) (ticket : TicketId) : Option AccountId :=
  (c.tickets ticket).map TicketRow.holder

def Ledger.holder (l : Ledger) (ticket : TicketId) : Option AccountId :=
  (l.tickets ticket).map Ticket.holder

-- ---------------------------------------------------------------------------
-- What a record writes
-- ---------------------------------------------------------------------------

variable {s : Services} {sequence : ℕ} {record : LogRecord} {c c' : Copy}

/-- The rows one record rewrites, and what it writes to them. -/
structure Writes (s : Services) (sequence : ℕ) (record : LogRecord) (c c' : Copy) : Prop where
  events : Rewrites (record.changesEvent = some ·) c.events c'.events fun _ old row =>
    row.sequence = sequence ∧
      row.metadataLocator = (old.map EventRow.metadataLocator).getD record.locator
  tickets : Rewrites (record.changesTicket = some ·) c.tickets c'.tickets fun _ _ row =>
    row.sequence = sequence
  attendance : Rewrites (record.attends = some ·) c.attendance c'.attendance fun ticket old row =>
    row.sequence = sequence ∧ row.lastRecordedAt = record.recordedAt ∧ ∃ held,
      c.tickets ticket = some held ∧
        row.eventId = (old.map AttendanceRow.eventId).getD held.eventId
  passes : Rewrites (record.consumes = some ·) c.passes c'.passes fun _ _ row =>
    record.passRow sequence = some row
  credentials : Rewrites (record.registers s = some ·) c.credentials c'.credentials fun _ old row =>
    some row = old.or (record.credentialRow sequence)
  transfers : Rewrites (fun n => n = sequence ∧ (record.transferRow c.holder).isSome)
    c.transfers c'.transfers fun _ _ row => record.transferRow c.holder = some row

theorem applyRegistration_writes {account : AccountId} {registration : Registration}
    (h : applyRegistration s sequence record account registration c = .ok c') :
    ∃ key, s.registrationAccount registration = .ok key ∧
      Rewrites (key = ·) c.credentials c'.credentials (fun _ old row =>
        some row = old.or (some ⟨registration, sequence⟩)) ∧
      c' = { c with credentials := c'.credentials } := by
  unfold applyRegistration at h
  split at h
  · cases h
  · split at h
    · cases h
    · rename_i key hkey _
      unfold insertCredential at h
      split at h
      · rename_i row hrow
        cases h
        refine ⟨key, hkey, ⟨fun other hother => ?_, fun _ _ => rfl⟩, rfl⟩
        subst hother
        exact ⟨row, hrow, by rw [hrow]; rfl⟩
      · rename_i hnone
        cases h
        refine ⟨key, hkey, .one (fun other => eq_comm) ?_, rfl⟩
        rw [hnone]
        rfl

theorem upsertAttendance_writes {ticket : TicketId} {event : EventId} {recordedAt : Time}
    (h : exactlyOne record (upsertAttendance ticket event recordedAt sequence) c = .ok c') :
    ∃ row : AttendanceRow, row.sequence = sequence ∧ row.lastRecordedAt = recordedAt ∧
      row.eventId = ((c.attendance ticket).map AttendanceRow.eventId).getD event ∧
      c' = { c with attendance := Function.update c.attendance ticket (some row) } := by
  have hs := exactlyOne_eq h
  unfold upsertAttendance at hs
  split at hs
  · rename_i row hrow
    cases hs
    exact ⟨_, rfl, rfl, by rw [hrow]; rfl, rfl⟩
  · rename_i hnone _ _
    cases hs
    exact ⟨_, rfl, rfl, by rw [hnone]; rfl, rfl⟩
  · cases hs

theorem Writes.event {i : EventId} {row : EventRow} (hevent : record.changesEvent = some i)
    (hticket : record.changesTicket = none) (hpass : record.consumes = none)
    (hregisters : record.registers s = none) (htransfer : record.transferRow c.holder = none)
    (hsequence : row.sequence = sequence)
    (hlocator : row.metadataLocator =
      ((c.events i).map EventRow.metadataLocator).getD record.locator) :
    Writes s sequence record c { c with events := Function.update c.events i (some row) } where
  events := .one (fun other => by simp [hevent, eq_comm]) ⟨hsequence, hlocator⟩
  tickets := .none (by simp [hticket])
  attendance := .none (by simp [LogRecord.attends, hpass])
  passes := .none (by simp [hpass])
  credentials := .none (by simp [hregisters])
  transfers := .none (by simp [htransfer])

theorem Writes.ticket {i : TicketId} {row : TicketRow} (hevent : record.changesEvent = none)
    (hticket : record.changesTicket = some i) (hpass : record.consumes = none)
    (hregisters : record.registers s = none) (htransfer : record.transferRow c.holder = none)
    (hsequence : row.sequence = sequence) :
    Writes s sequence record c { c with tickets := Function.update c.tickets i (some row) } where
  events := .none (by simp [hevent])
  tickets := .one (fun other => by simp [hticket, eq_comm]) hsequence
  attendance := .none (by simp [LogRecord.attends, hpass])
  passes := .none (by simp [hpass])
  credentials := .none (by simp [hregisters])
  transfers := .none (by simp [htransfer])

theorem applyCommand_writes {operationId : OperationId} {signer : AccountId} {command : Command}
    (hentry : record.entry = .command operationId signer command)
    (h : applyCommand s sequence record command c = .ok c') : Writes s sequence record c c' := by
  have hpass : record.consumes = none := by simp [LogRecord.consumes, hentry]
  cases command with
  | createEvent event salt capacity zones metadata =>
    simp only [applyCommand] at h
    split at h
    · cases h
    · obtain ⟨hnone, rfl⟩ := insertEvent_eq h
      refine .event (by simp [LogRecord.changesEvent, hentry])
        (by simp [LogRecord.changesTicket, hentry]) hpass (by simp [LogRecord.registers, hentry])
        (by simp [LogRecord.transferRow, hentry]) rfl ?_
      simp [hnone, LogRecord.locator, hentry]
  | setEventStatus | setEventCapacity | addZone | removeZone =>
    obtain ⟨row, hrow, rfl⟩ := updateEvent_eq h
    refine .event (by simp [LogRecord.changesEvent, hentry])
      (by simp [LogRecord.changesTicket, hentry]) hpass (by simp [LogRecord.registers, hentry])
      (by simp [LogRecord.transferRow, hentry]) rfl ?_
    simp [hrow]
  | issueTicket input =>
    obtain ⟨c₁, h₁, h₂⟩ := bind_eq_ok.mp h
    obtain ⟨hnone, rfl⟩ := insertTicket_eq h₁
    obtain ⟨row, hrow, rfl⟩ := updateEvent_eq h₂
    have hrow : c.events input.event = some row := hrow
    constructor
    · exact .one (fun other => by simp [LogRecord.changesEvent, hentry, eq_comm])
        ⟨rfl, by simp [hrow]⟩
    · exact .one (fun other => by simp [LogRecord.changesTicket, hentry, eq_comm]) rfl
    · exact .none (by simp [LogRecord.attends, hpass])
    · exact .none (by simp [hpass])
    · exact .none (by simp [LogRecord.registers, hentry])
    · exact .none (by simp [LogRecord.transferRow, hentry])
  | transferTicket event ticket receiver =>
    simp only [applyCommand] at h
    split at h
    · cases h
    · rename_i previous hprevious
      obtain ⟨hprevious, -⟩ := Option.filter_eq_some_iff.mp hprevious
      obtain ⟨c₁, h₁, h₂⟩ := bind_eq_ok.mp h
      obtain ⟨row, -, -, rfl⟩ := updateTicket_eq h₁
      obtain ⟨-, rfl⟩ := insertTransfer_inserts h₂
      have htransfer : record.transferRow c.holder =
          some ⟨event, ticket, previous.holder, receiver, record.recordedAt⟩ := by
        simp [LogRecord.transferRow, hentry, Copy.holder, hprevious]
      constructor
      · exact .none (by simp [LogRecord.changesEvent, hentry])
      · exact .one (fun other => by simp [LogRecord.changesTicket, hentry, eq_comm]) rfl
      · exact .none (by simp [LogRecord.attends, hpass])
      · exact .none (by simp [hpass])
      · exact .none (by simp [LogRecord.registers, hentry])
      · exact .one (fun other => by simp [htransfer]) htransfer
  | removeRestriction event ticket restriction =>
    cases restriction with
    | other name => cases h
    | cannotResale | cannotTransfer =>
      obtain ⟨row, -, -, rfl⟩ := updateTicket_eq h
      exact .ticket (by simp [LogRecord.changesEvent, hentry])
        (by simp [LogRecord.changesTicket, hentry]) hpass (by simp [LogRecord.registers, hentry])
        (by simp [LogRecord.transferRow, hentry]) rfl
  | registerCredential account registration =>
    obtain ⟨key, hkey, hwrites, hc'⟩ := applyRegistration_writes h
    rw [hc']
    constructor
    · exact .none (by simp [LogRecord.changesEvent, hentry])
    · exact .none (by simp [LogRecord.changesTicket, hentry])
    · exact .none (by simp [LogRecord.attends, hpass])
    · exact .none (by simp [hpass])
    · simpa [LogRecord.registers, LogRecord.credentialRow, hentry, hkey, Except.toOption]
        using hwrites
    · exact .none (by simp [LogRecord.transferRow, hentry])
  | other kind => cases h

theorem applyAttendance_writes {pass : AccessPass} (hentry : record.entry = .pass pass)
    (h : applyAttendance sequence record pass c = .ok c') : Writes s sequence record c c' := by
  have hpass : record.consumes = some (pass.ticket, pass.id) := by
    simp [LogRecord.consumes, hentry]
  unfold applyAttendance at h
  split at h
  · cases h
  · rename_i event k hevent
    obtain ⟨c₁, h₁, h⟩ := bind_eq_ok.mp h
    obtain ⟨c₂, h₂, h⟩ := bind_eq_ok.mp h
    obtain ⟨row, hrow, hof, rfl⟩ := updateTicket_eq h₁
    obtain ⟨attended, hsequence, hrecorded, hid, rfl⟩ := upsertAttendance_writes h₂
    split at h
    · cases h
    · rename_i presentedAt hpresented
      obtain ⟨-, rfl⟩ := insertPass_eq h
      constructor
      · exact .none (by simp [LogRecord.changesEvent, hentry])
      · exact .one (fun other => by simp [LogRecord.changesTicket, hentry, eq_comm]) rfl
      · exact .one (fun other => by simp [LogRecord.attends, hpass, eq_comm])
          ⟨hsequence, hrecorded, row, hrow, by rw [hid, hof]⟩
      · exact .one (fun other => by simp [hpass, eq_comm])
          (by simp [LogRecord.passRow, hentry, hevent, hpresented])
      · exact .none (by simp [LogRecord.registers, hentry])
      · exact .none (by simp [LogRecord.transferRow, hentry])

theorem ledgerFacts_writes (h : ledgerFacts s sequence record c = .ok c') :
    Writes s sequence record c c' := by
  unfold ledgerFacts at h
  cases hentry : record.entry with
  | command operationId signer command =>
    rw [hentry] at h
    exact applyCommand_writes hentry h
  | pass pass =>
    rw [hentry] at h
    exact applyAttendance_writes hentry h
  | other =>
    rw [hentry] at h
    cases h

-- ---------------------------------------------------------------------------
-- What the tables hold
-- ---------------------------------------------------------------------------

def holderAfter (config : RulesConfig) (registrationAccount : RegistrationAccount)
    (past : List LogRecord) : TicketId → Option AccountId :=
  ((Ledger.empty.run config registrationAccount past).getD .empty).holder

variable {config : RulesConfig} {l l' : Ledger} {past log : List LogRecord}

/-- Each table holds what the log last said of a key, or first, where rows stay. -/
structure Told (config : RulesConfig) (s : Services) (past : List LogRecord) (c : Copy) : Prop where
  changed : ∀ i, (c.events i).map EventRow.sequence =
    (said LogRecord.changesEvent (fun n _ => n) past i).getLast?
  located : ∀ i, (c.events i).map EventRow.metadataLocator =
    (said LogRecord.changesEvent (fun _ r => r.locator) past i).head?
  ticket : ∀ i, (c.tickets i).map TicketRow.sequence =
    (said LogRecord.changesTicket (fun n _ => n) past i).getLast?
  attended : ∀ i, (c.attendance i).map (fun row => (row.sequence, row.lastRecordedAt)) =
    (said LogRecord.attends (fun n r => (n, r.recordedAt)) past i).getLast?
  ofTicket : ∀ i row, c.attendance i = some row → ∃ held, c.tickets i = some held ∧
    row.eventId = held.eventId
  passes : ∀ key, (c.passes key).map some =
    (said LogRecord.consumes (fun n r => r.passRow n) past key).getLast?
  credentials : ∀ key, (c.credentials key).map some =
    (said (LogRecord.registers s) (fun n r => r.credentialRow n) past key).head?
  transfers : ∀ n, c.transfers n = past[n]?.bind fun r =>
    r.transferRow (holderAfter config s.registrationAccount (past.take n))

theorem Told.empty : Told config s [] .empty := by
  constructor <;> simp [Copy.empty]

theorem Follows.holder (h : Follows past l c) : c.holder = l.holder := by
  funext ticket
  rw [Copy.holder, Ledger.holder, ← h.tickets ticket, Option.map_map]
  rfl

theorem Told.step (h : Told config s past c) (hf : Follows past l c)
    (hrun : Ledger.empty.run config s.registrationAccount past = some l)
    (hw : Writes s past.length record c c') (ha : Applies past.length record c c') :
    Told config s (past ++ [record]) c' where
  changed := hw.events.last (fun _ _ _ hnew => hnew.1) h.changed
  located := hw.events.first (fun _ _ _ _ hnew => hnew.2) h.located
  ticket := hw.tickets.last (fun _ _ _ hnew => hnew) h.ticket
  attended := hw.attendance.last (fun _ _ _ hnew => Prod.ext hnew.1 hnew.2.1) h.attended
  ofTicket i row hrow := by
    by_cases hi : record.attends = some i
    · obtain ⟨row', hrow', -, -, held, hheld, hid⟩ := hw.attendance.changed i hi
      obtain rfl := Option.some.inj (hrow'.symm.trans hrow)
      obtain ⟨held', hheld', hkept⟩ := ha.ticket i held hheld
      refine ⟨held', hheld', ?_⟩
      rw [hid, hkept.event]
      cases hold : c.attendance i with
      | none => rfl
      | some old =>
        obtain ⟨held'', hheld'', hof⟩ := h.ofTicket i old hold
        obtain rfl := Option.some.inj (hheld''.symm.trans hheld)
        exact hof
    · rw [hw.attendance.kept i hi] at hrow
      obtain ⟨held, hheld, hof⟩ := h.ofTicket i row hrow
      obtain ⟨held', hheld', hkept⟩ := ha.ticket i held hheld
      exact ⟨held', hheld', hof.trans hkept.event.symm⟩
  passes := hw.passes.last (fun _ _ _ hnew => hnew.symm) h.passes
  credentials := hw.credentials.first (fun _ old _ _ hnew => by
    rw [hnew]
    cases old <;> rfl) h.credentials
  transfers n := by
    have hlast : c'.transfers past.length = record.transferRow l.holder := by
      cases hrow : record.transferRow c.holder with
      | none =>
        rw [hw.transfers.kept _ (by simp [hrow]), hf.transfers _ le_rfl, ← hf.holder, hrow]
      | some row =>
        obtain ⟨row', hrow', hsaid⟩ := hw.transfers.changed past.length ⟨rfl, by simp [hrow]⟩
        rw [hrow', ← hsaid, hf.holder]
    rcases lt_trichotomy n past.length with hlt | rfl | hgt
    · rw [hw.transfers.kept n (fun hn => hlt.ne hn.1), h.transfers n,
        List.getElem?_append_left hlt, List.take_append_of_le_length hlt.le]
    · simp [hlast, holderAfter, hrun]
    · rw [hw.transfers.kept n (fun hn => hgt.ne' hn.1), hf.transfers n hgt.le,
        List.getElem?_eq_none (by simp; omega)]
      rfl

-- ---------------------------------------------------------------------------
-- A whole log
-- ---------------------------------------------------------------------------

theorem Services.Answers.take (h : s.Answers config (past ++ log)) : s.Answers config past := by
  intro n hn
  have htake := h n (by simp; omega)
  rwa [List.take_append_of_le_length (Nat.succ_le_of_lt hn)] at htake

theorem follows_of_project (hrun : Ledger.empty.run config s.registrationAccount past = some l)
    (hanswers : s.Answers config past) (h : Copy.empty.project s 0 past = .ok c) :
    Follows past l c := by
  obtain ⟨hfits, hnot⟩ := project_accepted hrun hanswers
  by_cases hall : AllFit past
  · obtain ⟨c₁, hc₁, hfollows⟩ := hfits hall
    obtain rfl := Except.ok.inj (hc₁.symm.trans h)
    exact hfollows
  · rw [hnot hall] at h
    cases h

theorem told_of_project (hrun : Ledger.empty.run config s.registrationAccount past = some l)
    (hanswers : s.Answers config past) (h : Copy.empty.project s 0 past = .ok c) :
    Told config s past c := by
  induction past using List.reverseRecOn generalizing c l with
  | nil =>
    cases h
    exact .empty
  | append_singleton past record ih =>
    rw [Ledger.run_append] at hrun
    obtain ⟨m, hm, -⟩ := Option.bind_eq_some_iff.mp hrun
    rw [Copy.project, project_append] at h
    obtain ⟨c₀, h₀, h₁⟩ := bind_eq_ok.mp h
    rw [project_singleton, Nat.zero_add] at h₁
    obtain ⟨c₁, hone, h₂⟩ := bind_eq_ok.mp h₁
    cases h₂
    exact (ih hm hanswers.take h₀).step (follows_of_project hm hanswers.take h₀) hm
      (ledgerFacts_writes hone) (ledgerFacts_applies hone)

end Kippu.Derived
