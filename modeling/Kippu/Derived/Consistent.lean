import Kippu.Derived.Frames

/-!
# The copy agrees with itself

Some facts are kept in several tables: how many tickets an event issued, how often a ticket
attended, whom it went through. What one record does to the copy is said once; each fact follows
from that for the record, and so for a log.
-/

namespace Kippu.Derived

variable {s : Services} {record : LogRecord} {sequence : ℕ} {c c' : Copy}
  {past log : List LogRecord}

-- ---------------------------------------------------------------------------
-- What the tables say of one another
-- ---------------------------------------------------------------------------

def LogRecord.issues (record : LogRecord) (ticket : TicketId) : Option AccountId :=
  match record.entry with
  | .command _ _ (.issueTicket input) => if input.ticket = ticket then some input.holder else none
  | _ => none

def issuedTo (past : List LogRecord) (ticket : TicketId) : Option AccountId :=
  past.findSome? (·.issues ticket)

/-- Each transfer leaves the receiver of the one before, the first `a`, and the last ends at `b`. -/
def Chained : AccountId → List TransferRow → AccountId → Prop
  | a, [], b => a = b
  | a, row :: rows, b => row.fromHolder = a ∧ Chained row.toHolder rows b

structure TransfersOf (transfers : ℕ → Option TransferRow) (ticket : TicketId)
    (rows : List (ℕ × TransferRow)) : Prop where
  ordered : rows.Pairwise fun r r' => r.1 < r'.1
  mem : ∀ n row, (n, row) ∈ rows ↔ transfers n = some row ∧ row.ticketId = ticket

/-- An event's `issued` is the number of its tickets. -/
def Copy.Issued (c : Copy) : Prop :=
  ∀ i row, c.events i = some row → ∃ tickets : Finset TicketId,
    (∀ t, t ∈ tickets ↔ (c.tickets t).map TicketRow.eventId = some i) ∧ row.issued = tickets.card

/-- A ticket's `attendances` is its count in `derived_attendance`, if it is there. -/
def Copy.Counted (c : Copy) : Prop :=
  ∀ t row, c.tickets t = some row →
    row.attendances = ((c.attendance t).map AttendanceRow.count).getD 0

/-- A ticket's `attendances` is the number of its passes, too. -/
def Copy.Consumed (c : Copy) : Prop :=
  ∀ t row, c.tickets t = some row → ∃ passes : Finset PassId,
    (∀ p, p ∈ passes ↔ (c.passes (t, p)).isSome) ∧ row.attendances = passes.card

/-- A ticket's transfers lead from whom it was issued to, to its holder. -/
def Copy.Transferred (past : List LogRecord) (c : Copy) : Prop :=
  ∀ t row, c.tickets t = some row → ∃ first rows, issuedTo past t = some first ∧
    TransfersOf c.transfers t rows ∧ Chained first (rows.map Prod.snd) row.holder

structure Consistent (past : List LogRecord) (c : Copy) : Prop where
  issued : c.Issued
  counted : c.Counted
  consumed : c.Consumed
  transferred : c.Transferred past

/-- What the keys of the tables refer to is there. -/
structure Referenced (past : List LogRecord) (c : Copy) : Prop where
  event : ∀ t i, (c.tickets t).map TicketRow.eventId = some i → (c.events i).isSome
  attendance : ∀ t, (c.attendance t).isSome → (c.tickets t).isSome
  passes : ∀ t p, (c.passes (t, p)).isSome → (c.tickets t).isSome
  transfer : ∀ n row, c.transfers n = some row → (c.tickets row.ticketId).isSome
  sequence : ∀ n row, c.transfers n = some row → n < past.length
  issued : ∀ t, (issuedTo past t).isSome → (c.tickets t).isSome

-- ---------------------------------------------------------------------------
-- What one record does
-- ---------------------------------------------------------------------------

inductive Change (sequence : ℕ) (record : LogRecord) (c : Copy) : Copy → Prop
  | creates {i : EventId} {row : EventRow} : (∀ t, record.issues t = none) → c.events i = none →
      row.issued = 0 →
      Change sequence record c { c with events := Function.update c.events i (some row) }
  | changesEvent {i : EventId} {row row' : EventRow} : (∀ t, record.issues t = none) →
      c.events i = some row → row'.issued = row.issued →
      Change sequence record c { c with events := Function.update c.events i (some row') }
  | issues {t : TicketId} {ticket : TicketRow} {row row' : EventRow} :
      (∀ t', record.issues t' = if t = t' then some ticket.holder else none) →
      c.tickets t = none → ticket.attendances = 0 →
      c.events ticket.eventId = some row → row'.issued = row.issued + 1 →
      Change sequence record c { c with
        tickets := Function.update c.tickets t (some ticket)
        events := Function.update c.events ticket.eventId (some row') }
  | frees {t : TicketId} {ticket ticket' : TicketRow} : (∀ t, record.issues t = none) →
      c.tickets t = some ticket → ticket'.eventId = ticket.eventId →
      ticket'.holder = ticket.holder → ticket'.attendances = ticket.attendances →
      Change sequence record c { c with tickets := Function.update c.tickets t (some ticket') }
  | transfers {t : TicketId} {ticket ticket' : TicketRow} {row : TransferRow} :
      (∀ t, record.issues t = none) → c.tickets t = some ticket →
      ticket'.eventId = ticket.eventId → ticket'.attendances = ticket.attendances →
      c.transfers sequence = none → row.ticketId = t → row.fromHolder = ticket.holder →
      row.toHolder = ticket'.holder →
      Change sequence record c { c with
        tickets := Function.update c.tickets t (some ticket')
        transfers := Function.update c.transfers sequence (some row) }
  | attends {t : TicketId} {p : PassId} {ticket ticket' : TicketRow} {count : AttendanceRow}
      {pass : PassRow} : (∀ t, record.issues t = none) → c.tickets t = some ticket →
      ticket'.eventId = ticket.eventId → ticket'.holder = ticket.holder →
      ticket'.attendances = ticket.attendances + 1 →
      count.count = ((c.attendance t).map AttendanceRow.count).getD 0 + 1 →
      c.passes (t, p) = none →
      Change sequence record c { c with
        tickets := Function.update c.tickets t (some ticket')
        attendance := Function.update c.attendance t (some count)
        passes := Function.update c.passes (t, p) (some pass) }
  | registers {credentials : AccountId × CredentialId → Option CredentialRow} :
      (∀ t, record.issues t = none) →
      Change sequence record c { c with credentials := credentials }

theorem insertTransfer_inserts {row : TransferRow}
    (h : exactlyOne record (insertTransfer sequence row) c = .ok c') :
    c.transfers sequence = none ∧
      c' = { c with transfers := Function.update c.transfers sequence (some row) } := by
  have hs := exactlyOne_eq h
  unfold insertTransfer at hs
  split at hs
  · rename_i hnone _ _
    cases hs
    exact ⟨hnone, rfl⟩
  · cases hs

theorem upsertAttendance_counts {i : TicketId} {event : EventId} {recordedAt : Time}
    (h : exactlyOne record (upsertAttendance i event recordedAt sequence) c = .ok c') :
    ∃ row : AttendanceRow, row.count = ((c.attendance i).map AttendanceRow.count).getD 0 + 1 ∧
      c' = { c with attendance := Function.update c.attendance i (some row) } := by
  have hs := exactlyOne_eq h
  unfold upsertAttendance at hs
  split at hs
  · rename_i row hrow
    cases hs
    exact ⟨_, by rw [hrow]; rfl, rfl⟩
  · rename_i hnone _ _
    cases hs
    exact ⟨_, by rw [hnone]; rfl, rfl⟩
  · cases hs

theorem applyCommand_change {operationId : OperationId} {signer : AccountId} {command : Command}
    (hentry : record.entry = .command operationId signer command)
    (h : applyCommand s sequence record command c = .ok c') : Change sequence record c c' := by
  have hissues : (∀ input, command ≠ .issueTicket input) → ∀ t, record.issues t = none := by
    intro hnot t
    unfold LogRecord.issues
    rw [hentry]
    cases command with
    | issueTicket input => exact absurd rfl (hnot input)
    | _ => rfl
  cases command with
  | createEvent event salt capacity zones metadata =>
    simp only [applyCommand] at h
    split at h
    · cases h
    · obtain ⟨hnone, rfl⟩ := insertEvent_eq h
      exact .creates (hissues fun _ h => by cases h) hnone rfl
  | setEventStatus | setEventCapacity | addZone | removeZone =>
    obtain ⟨row, hrow, rfl⟩ := updateEvent_eq h
    exact .changesEvent (hissues fun _ h => by cases h) hrow rfl
  | issueTicket input =>
    obtain ⟨c₁, h₁, h₂⟩ := bind_eq_ok.mp h
    obtain ⟨hnone, rfl⟩ := insertTicket_eq h₁
    obtain ⟨row, hrow, rfl⟩ := updateEvent_eq h₂
    have hissued : ∀ t, record.issues t =
        if input.ticket = t then some (input.row sequence).holder else none := fun t => by
      simp [LogRecord.issues, hentry, IssueTicket.row]
    exact .issues hissued hnone rfl hrow rfl
  | transferTicket event ticket receiver =>
    simp only [applyCommand] at h
    split at h
    · cases h
    · rename_i previous hprevious
      obtain ⟨hprevious, -⟩ := Option.filter_eq_some_iff.mp hprevious
      obtain ⟨c₁, h₁, h₂⟩ := bind_eq_ok.mp h
      obtain ⟨row, hrow, hevent, rfl⟩ := updateTicket_eq h₁
      obtain ⟨hnone, rfl⟩ := insertTransfer_inserts h₂
      obtain rfl : previous = row := Option.some.inj (hprevious.symm.trans hrow)
      exact .transfers (hissues fun _ h => by cases h) hrow rfl rfl hnone rfl rfl rfl
  | removeRestriction event ticket restriction =>
    cases restriction with
    | other name => cases h
    | cannotResale | cannotTransfer =>
      obtain ⟨row, hrow, hevent, rfl⟩ := updateTicket_eq h
      exact .frees (hissues fun _ h => by cases h) hrow rfl rfl rfl
  | registerCredential account registration =>
    obtain ⟨credentials, rfl⟩ := applyRegistration_eq h
    exact .registers (hissues fun _ h => by cases h)
  | other kind => cases h

theorem applyAttendance_change {pass : AccessPass} (hentry : record.entry = .pass pass)
    (h : applyAttendance sequence record pass c = .ok c') : Change sequence record c c' := by
  have hissues : ∀ t, record.issues t = none := fun t => by simp [LogRecord.issues, hentry]
  unfold applyAttendance at h
  split at h
  · cases h
  · obtain ⟨c₁, h₁, h⟩ := bind_eq_ok.mp h
    obtain ⟨c₂, h₂, h⟩ := bind_eq_ok.mp h
    obtain ⟨row, hrow, hevent, rfl⟩ := updateTicket_eq h₁
    obtain ⟨count, hcount, rfl⟩ := upsertAttendance_counts h₂
    split at h
    · cases h
    · obtain ⟨hnone, rfl⟩ := insertPass_eq h
      exact .attends hissues hrow rfl rfl rfl hcount hnone

theorem ledgerFacts_change (h : ledgerFacts s sequence record c = .ok c') :
    Change sequence record c c' := by
  unfold ledgerFacts at h
  cases hentry : record.entry with
  | command operationId signer command =>
    rw [hentry] at h
    exact applyCommand_change hentry h
  | pass pass =>
    rw [hentry] at h
    exact applyAttendance_change hentry h
  | other =>
    rw [hentry] at h
    cases h

-- ---------------------------------------------------------------------------
-- The keys
-- ---------------------------------------------------------------------------

theorem issuedTo_snoc (t : TicketId) :
    issuedTo (past ++ [record]) t = (issuedTo past t).or (record.issues t) := by
  simp [issuedTo, List.findSome?_append]

theorem map_update {α β γ : Type} [DecidableEq α] {rows : α → Option β} {i : α} {row row' : β}
    (f : β → γ) (h : rows i = some row) (hf : f row' = f row) (j : α) :
    (Function.update rows i (some row') j).map f = (rows j).map f := by
  by_cases hj : j = i
  · subst hj
    simp [h, hf]
  · simp [hj]

theorem isSome_update {α β : Type} [DecidableEq α] {rows : α → Option β} {i j : α} {row : β}
    (h : (rows j).isSome) : (Function.update rows i (some row) j).isSome := by
  by_cases hj : j = i
  · simp [hj]
  · simpa [hj] using h

theorem update_cases {α β : Type} [DecidableEq α] {rows : α → Option β} {i j : α} {row row' : β}
    (h : Function.update rows i (some row) j = some row') :
    (j = i ∧ row = row') ∨ (j ≠ i ∧ rows j = some row') := by
  by_cases hj : j = i
  · subst hj
    exact .inl ⟨rfl, by simpa using h⟩
  · exact .inr ⟨hj, by simpa [hj] using h⟩

theorem Referenced.empty : Referenced [] .empty where
  event _ _ h := nomatch h
  attendance _ h := nomatch h
  passes _ _ h := nomatch h
  transfer _ _ h := nomatch h
  sequence _ _ h := nomatch h
  issued _ h := nomatch h

theorem Referenced.step (hk : Referenced past c) (h : Change past.length record c c') :
    Referenced (past ++ [record]) c' := by
  have hissued : ∀ t, (issuedTo (past ++ [record]) t).isSome →
      (c.tickets t).isSome ∨ (record.issues t).isSome := by
    intro t ht
    rw [issuedTo_snoc, Option.isSome_or, Bool.or_eq_true] at ht
    exact ht.imp_left (hk.issued t)
  have hlater : ∀ n row, c.transfers n = some row → n < (past ++ [record]).length := by
    intro n row hrow
    have := hk.sequence n row hrow
    simp
    omega
  cases h with
  | creates hissues hnone _ =>
    exact ⟨fun t i ht => isSome_update (hk.event t i ht), hk.attendance, hk.passes,
      hk.transfer, hlater, fun t ht => (hissued t ht).resolve_right (by simp [hissues])⟩
  | changesEvent hissues hrow _ =>
    exact ⟨fun t i ht => isSome_update (hk.event t i ht), hk.attendance, hk.passes,
      hk.transfer, hlater, fun t ht => (hissued t ht).resolve_right (by simp [hissues])⟩
  | @issues t ticket row row' hissues hnone _ hrow _ =>
    refine ⟨fun t' i hticket => ?_, fun t' h => isSome_update (hk.attendance t' h),
      fun t' p h => isSome_update (hk.passes t' p h),
      fun n row h => isSome_update (hk.transfer n row h), hlater, fun t' ht => ?_⟩
    · by_cases ht : t' = t
      · subst ht
        obtain rfl : ticket.eventId = i := by simpa using hticket
        simp
      · exact isSome_update (hk.event t' i (by simpa [ht] using hticket))
    · cases hissued t' ht with
      | inl hold => exact isSome_update hold
      | inr hnew =>
        rw [hissues] at hnew
        split at hnew
        · rename_i heq
          simp [heq]
        · cases hnew
  | @frees t ticket ticket' hissues hticket hevent _ _ =>
    refine ⟨fun t' i hi => ?_, fun t' h => isSome_update (hk.attendance t' h),
      fun t' p h => isSome_update (hk.passes t' p h),
      fun n row h => isSome_update (hk.transfer n row h), hlater, fun t' ht => ?_⟩
    · exact hk.event t' i ((map_update TicketRow.eventId hticket hevent t').symm.trans hi)
    · exact isSome_update ((hissued t' ht).resolve_right (by simp [hissues]))
  | @transfers t ticket ticket' row hissues hticket hevent _ _ hrow _ _ =>
    refine ⟨fun t' i hi => ?_, fun t' h => isSome_update (hk.attendance t' h),
      fun t' p h => isSome_update (hk.passes t' p h), fun n row' h => ?_, fun n row' h => ?_,
      fun t' ht => ?_⟩
    · exact hk.event t' i ((map_update TicketRow.eventId hticket hevent t').symm.trans hi)
    · by_cases hn : n = past.length
      · subst hn
        obtain rfl : row = row' := by simpa using h
        simp [hrow]
      · exact isSome_update (hk.transfer n row' (by simpa [hn] using h))
    · by_cases hn : n = past.length
      · simp [hn]
      · exact hlater n row' (by simpa [hn] using h)
    · exact isSome_update ((hissued t' ht).resolve_right (by simp [hissues]))
  | @attends t p ticket ticket' count pass hissues hticket hevent _ _ _ _ =>
    refine ⟨fun t' i hi => ?_, fun t' h => ?_, fun t' p' h => ?_,
      fun n row h => isSome_update (hk.transfer n row h), hlater, fun t' ht => ?_⟩
    · exact hk.event t' i ((map_update TicketRow.eventId hticket hevent t').symm.trans hi)
    · by_cases ht : t' = t
      · simp [ht]
      · exact isSome_update (hk.attendance t' (by simpa [ht] using h))
    · by_cases ht : t' = t
      · simp [ht]
      · have hne : (t', p') ≠ (t, p) := fun heq => ht (Prod.mk.inj heq).1
        exact isSome_update (hk.passes t' p' (by simpa [hne] using h))
    · exact isSome_update ((hissued t' ht).resolve_right (by simp [hissues]))
  | registers hissues =>
    exact ⟨hk.event, hk.attendance, hk.passes, hk.transfer, hlater,
      fun t ht => (hissued t ht).resolve_right (by simp [hissues])⟩

-- ---------------------------------------------------------------------------
-- One record
-- ---------------------------------------------------------------------------

theorem Copy.Issued.of_same (hi : c.Issued)
    (htickets : ∀ t, (c'.tickets t).map TicketRow.eventId = (c.tickets t).map TicketRow.eventId)
    (hevents : c'.events = c.events) : c'.Issued := by
  intro i row hrow
  obtain ⟨tickets, hmem, hcard⟩ := hi i row (hevents ▸ hrow)
  exact ⟨tickets, fun t => (hmem t).trans (by rw [htickets]), hcard⟩

theorem Change.issued (h : Change sequence record c c') (hk : Referenced past c) (hi : c.Issued) :
    c'.Issued := by
  cases h with
  | @creates i row _ hnone hzero =>
    intro j row' hrow
    by_cases hj : j = i
    · subst hj
      obtain rfl : row = row' := by simpa using hrow
      refine ⟨∅, fun t => ?_, hzero⟩
      simp only [Finset.notMem_empty, false_iff]
      intro ht
      simpa [hnone] using hk.event t j ht
    · exact hi j row' (by simpa [hj] using hrow)
  | @changesEvent i row row' _ hold hsame =>
    intro j row'' hrow
    by_cases hj : j = i
    · subst hj
      obtain rfl : row' = row'' := by simpa using hrow
      obtain ⟨tickets, hmem, hcard⟩ := hi j row hold
      exact ⟨tickets, hmem, hsame.trans hcard⟩
    · exact hi j row'' (by simpa [hj] using hrow)
  | @issues t ticket row row' _ hnone _ hold hmore =>
    intro j row'' hrow
    by_cases hj : j = ticket.eventId
    · subst hj
      obtain rfl : row' = row'' := by simpa using hrow
      obtain ⟨tickets, hmem, hcard⟩ := hi _ row hold
      have hnew : t ∉ tickets := fun ht => by simpa [hnone] using (hmem t).mp ht
      refine ⟨insert t tickets, fun t' => ?_, ?_⟩
      · by_cases ht : t' = t
        · simp [ht]
        · simp [ht, hmem]
      · rw [Finset.card_insert_of_notMem hnew, hmore, hcard]
    · obtain ⟨tickets, hmem, hcard⟩ := hi j row'' (by simpa [hj] using hrow)
      refine ⟨tickets, fun t' => (hmem t').trans ?_, hcard⟩
      by_cases ht : t' = t
      · simp [ht, hnone, Ne.symm hj]
      · simp [ht]
  | frees _ hticket hevent _ _ => exact hi.of_same (map_update _ hticket hevent) rfl
  | transfers _ hticket hevent _ _ _ _ _ => exact hi.of_same (map_update _ hticket hevent) rfl
  | attends _ hticket hevent _ _ _ _ => exact hi.of_same (map_update _ hticket hevent) rfl
  | registers _ => exact hi

theorem Copy.Counted.replace {t : TicketId} {ticket ticket' : TicketRow} (hi : c.Counted)
    (hticket : c.tickets t = some ticket) (hsame : ticket'.attendances = ticket.attendances)
    (htickets : c'.tickets = Function.update c.tickets t (some ticket'))
    (hattendance : c'.attendance = c.attendance) : c'.Counted := by
  intro t' row hrow
  rw [hattendance]
  cases update_cases (htickets ▸ hrow) with
  | inl hnew =>
    obtain ⟨rfl, rfl⟩ := hnew
    exact hsame.trans (hi t' ticket hticket)
  | inr hold => exact hi t' row hold.2

theorem Change.counted (h : Change sequence record c c') (hk : Referenced past c) (hi : c.Counted) :
    c'.Counted := by
  cases h with
  | creates | changesEvent | registers => exact hi
  | @issues t ticket row row' _ hnone hzero _ _ =>
    intro t' row'' hrow
    cases update_cases hrow with
    | inl hnew =>
      obtain ⟨rfl, rfl⟩ := hnew
      have hfree : c.attendance t' = none := by
        by_contra hsome
        have := hk.attendance t' (Option.isSome_iff_ne_none.mpr hsome)
        simp [hnone] at this
      simp [hzero, hfree]
    | inr hold => exact hi t' row'' hold.2
  | frees _ hticket _ _ hsame => exact hi.replace hticket hsame rfl rfl
  | transfers _ hticket _ hsame _ _ _ _ => exact hi.replace hticket hsame rfl rfl
  | @attends t p ticket ticket' count pass _ hticket _ _ hmore hcount _ =>
    intro t' row hrow
    cases update_cases hrow with
    | inl hnew =>
      obtain ⟨rfl, rfl⟩ := hnew
      simp [hmore, hcount, hi t' ticket hticket]
    | inr hold => simpa [hold.1] using hi t' row hold.2

theorem Copy.Consumed.replace {t : TicketId} {ticket ticket' : TicketRow} (hi : c.Consumed)
    (hticket : c.tickets t = some ticket) (hsame : ticket'.attendances = ticket.attendances)
    (htickets : c'.tickets = Function.update c.tickets t (some ticket'))
    (hpasses : c'.passes = c.passes) : c'.Consumed := by
  intro t' row hrow
  rw [hpasses]
  cases update_cases (htickets ▸ hrow) with
  | inl hnew =>
    obtain ⟨rfl, rfl⟩ := hnew
    obtain ⟨passes, hmem, hcard⟩ := hi t' ticket hticket
    exact ⟨passes, hmem, hsame.trans hcard⟩
  | inr hold => exact hi t' row hold.2

theorem Change.consumed (h : Change sequence record c c') (hk : Referenced past c) (hi : c.Consumed) :
    c'.Consumed := by
  cases h with
  | creates | changesEvent | registers => exact hi
  | @issues t ticket row row' _ hnone hzero _ _ =>
    intro t' row'' hrow
    cases update_cases hrow with
    | inl hnew =>
      obtain ⟨rfl, rfl⟩ := hnew
      refine ⟨∅, fun p => ?_, hzero⟩
      simp only [Finset.notMem_empty, false_iff]
      intro hpass
      simpa [hnone] using hk.passes t' p hpass
    | inr hold => exact hi t' row'' hold.2
  | frees _ hticket _ _ hsame => exact hi.replace hticket hsame rfl rfl
  | transfers _ hticket _ hsame _ _ _ _ => exact hi.replace hticket hsame rfl rfl
  | @attends t p ticket ticket' count pass _ hticket _ _ hmore _ hfree =>
    intro t' row hrow
    cases update_cases hrow with
    | inl hnew =>
      obtain ⟨rfl, rfl⟩ := hnew
      obtain ⟨passes, hmem, hcard⟩ := hi t' ticket hticket
      have hnew : p ∉ passes := fun hp => by simpa [hfree] using (hmem p).mp hp
      refine ⟨insert p passes, fun p' => ?_, ?_⟩
      · by_cases hp : p' = p
        · simp [hp]
        · have hne : (t', p') ≠ (t', p) := fun heq => hp (Prod.mk.inj heq).2
          simp [hp, hmem]
      · rw [Finset.card_insert_of_notMem hnew, hmore, hcard]
    | inr hold =>
      obtain ⟨passes, hmem, hcard⟩ := hi t' row hold.2
      refine ⟨passes, fun p' => (hmem p').trans ?_, hcard⟩
      have hne : (t', p') ≠ (t, p) := fun heq => hold.1 (Prod.mk.inj heq).1
      simp [hne]

theorem Chained.snoc {a b : AccountId} {rows : List TransferRow} {row : TransferRow}
    (h : Chained a rows b) (hfrom : row.fromHolder = b) :
    Chained a (rows ++ [row]) row.toHolder := by
  induction rows generalizing a with
  | nil => exact ⟨hfrom.trans h.symm, rfl⟩
  | cons first rows ih => exact ⟨h.1, ih h.2⟩

variable {transfers transfers' : ℕ → Option TransferRow} {t : TicketId}
  {rows : List (ℕ × TransferRow)}

theorem TransfersOf.of_same (h : TransfersOf transfers t rows)
    (hsame : ∀ n row, row.ticketId = t → (transfers' n = some row ↔ transfers n = some row)) :
    TransfersOf transfers' t rows where
  ordered := h.ordered
  mem n row := by
    rw [h.mem n row]
    exact and_congr_left fun ht => (hsame n row ht).symm

theorem TransfersOf.snoc {row : TransferRow} (h : TransfersOf transfers t rows)
    (hlast : ∀ n row, transfers n = some row → n < sequence) (hrow : row.ticketId = t) :
    TransfersOf (Function.update transfers sequence (some row)) t (rows ++ [(sequence, row)]) where
  ordered := by
    refine List.pairwise_append.mpr ⟨h.ordered, List.pairwise_singleton _ _, fun r hr r' hr' => ?_⟩
    obtain rfl := List.mem_singleton.mp hr'
    exact hlast r.1 r.2 ((h.mem r.1 r.2).mp hr).1
  mem n row' := by
    rw [List.mem_append, h.mem n row', List.mem_singleton]
    by_cases hn : n = sequence
    · subst hn
      have hnone : ∀ r, transfers n ≠ some r := fun r hr => (hlast n r hr).false
      simp only [hnone row', false_and, false_or, Prod.mk.injEq, true_and, Function.update_self,
        Option.some.injEq]
      constructor
      · rintro rfl
        exact ⟨rfl, hrow⟩
      · exact fun heq => heq.1.symm
    · simp [hn]

theorem Copy.Transferred.snoc (hi : c.Transferred past) (record : LogRecord) :
    c.Transferred (past ++ [record]) := by
  intro t row hrow
  obtain ⟨first, rows, hfirst, hrows, hchain⟩ := hi t row hrow
  exact ⟨first, rows, by simp [issuedTo_snoc, hfirst], hrows, hchain⟩

theorem Copy.Transferred.replace {ticket ticket' : TicketRow}
    (hi : c.Transferred past) (hticket : c.tickets t = some ticket)
    (hholder : ticket'.holder = ticket.holder)
    (htickets : c'.tickets = Function.update c.tickets t (some ticket'))
    (htransfers : c'.transfers = c.transfers) : c'.Transferred past := by
  intro t' row hrow
  rw [htransfers]
  cases update_cases (htickets ▸ hrow) with
  | inl hnew =>
    obtain ⟨rfl, rfl⟩ := hnew
    obtain ⟨first, rows, hfirst, hrows, hchain⟩ := hi t' ticket hticket
    exact ⟨first, rows, hfirst, hrows, hholder ▸ hchain⟩
  | inr hold => exact hi t' row hold.2

theorem Change.transferred (h : Change past.length record c c') (hk : Referenced past c)
    (hi : c.Transferred past) : c'.Transferred (past ++ [record]) := by
  have hlater := hi.snoc record
  cases h with
  | creates | changesEvent | registers => exact hlater
  | @issues t ticket row row' hissues hnone _ _ _ =>
    intro t' row'' hrow
    cases update_cases hrow with
    | inl hnew =>
      obtain ⟨rfl, rfl⟩ := hnew
      have hunissued : issuedTo past t' = none := by
        by_contra hsome
        have := hk.issued t' (Option.isSome_iff_ne_none.mpr hsome)
        simp [hnone] at this
      refine ⟨ticket.holder, [], by simp [issuedTo_snoc, hunissued, hissues], ⟨.nil, ?_⟩, rfl⟩
      intro n row
      simp only [List.not_mem_nil, false_iff, not_and]
      rintro htransfer rfl
      simpa [hnone] using hk.transfer n row htransfer
    | inr hold => exact hlater t' row'' hold.2
  | frees _ hticket _ hholder _ => exact (hi.snoc record).replace hticket hholder rfl rfl
  | attends _ hticket _ hholder _ _ _ => exact (hi.snoc record).replace hticket hholder rfl rfl
  | @transfers t ticket ticket' row _ hticket _ _ hnone hof hfrom hto =>
    intro t' row' hrow
    cases update_cases hrow with
    | inl hnew =>
      obtain ⟨rfl, rfl⟩ := hnew
      obtain ⟨first, rows, hfirst, hrows, hchain⟩ := hlater t' ticket hticket
      refine ⟨first, rows ++ [(past.length, row)], hfirst,
        hrows.snoc hk.sequence hof, ?_⟩
      have hsnoc := hchain.snoc hfrom
      rw [hto] at hsnoc
      simpa using hsnoc
    | inr hold =>
      obtain ⟨first, rows, hfirst, hrows, hchain⟩ := hlater t' row' hold.2
      refine ⟨first, rows, hfirst, hrows.of_same fun n other hother => ?_, hchain⟩
      by_cases hn : n = past.length
      · subst hn
        have hne : row ≠ other := fun heq => hold.1 (by rw [← hother, ← heq, hof])
        simp [hnone, hne]
      · simp [hn]

-- ---------------------------------------------------------------------------
-- A log
-- ---------------------------------------------------------------------------

theorem Consistent.empty : Consistent [] .empty where
  issued _ _ h := nomatch h
  counted _ _ h := nomatch h
  consumed _ _ h := nomatch h
  transferred _ _ h := nomatch h

theorem Consistent.step (h : Consistent past c) (hk : Referenced past c)
    (hc : Change past.length record c c') : Consistent (past ++ [record]) c' where
  issued := hc.issued hk h.issued
  counted := hc.counted hk h.counted
  consumed := hc.consumed hk h.consumed
  transferred := hc.transferred hk h.transferred

theorem Consistent.project (h : Consistent past c) (hk : Referenced past c)
    (hp : Copy.project s past.length c log = .ok c') : Consistent (past ++ log) c' := by
  induction log generalizing past c with
  | nil =>
    cases hp
    simpa using h
  | cons record log ih =>
    rw [Copy.project_cons] at hp
    obtain ⟨c₁, h₁, hp⟩ := bind_eq_ok.mp hp
    have hc := ledgerFacts_change h₁
    have hlater := ih (h.step hk hc) (hk.step hc) (by simpa using hp)
    simpa using hlater

end Kippu.Derived
