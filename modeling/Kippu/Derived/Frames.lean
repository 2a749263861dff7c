import Kippu.Derived.LedgerFacts

/-!
# What a record changes

What one applied record leaves of the copy's events, tickets and passes, said once
for every kind of record; what a log leaves of them follows by induction.
-/

namespace Kippu.Derived

theorem bind_eq_ok {x : Except ε α} {f : α → Except ε β} :
    x >>= f = .ok b ↔ ∃ a, x = .ok a ∧ f a = .ok b := by
  cases x with
  | error e => simp [bind, Except.bind]
  | ok a => simp [bind, Except.bind]

-- ---------------------------------------------------------------------------
-- Statements
-- ---------------------------------------------------------------------------

variable {record : LogRecord} {sequence : ℕ} {c c' : Copy}

theorem exactlyOne_eq {statement : Statement} (h : exactlyOne record statement c = .ok c') :
    statement c = .ok (1, c') := by
  obtain ⟨⟨count, c₁⟩, hs, h⟩ := bind_eq_ok.mp h
  dsimp only at h
  split at h
  · rename_i hone
    cases h
    rw [hs, hone]
  · cases h

theorem updateEvent_eq (h : exactlyOne record (updateEvent i f) c = .ok c') :
    ∃ row, c.events i = some row ∧
      c' = { c with events := Function.update c.events i (some (f row)) } := by
  have hs := exactlyOne_eq h
  unfold updateEvent at hs
  split at hs
  · rename_i row hrow
    cases hs
    exact ⟨row, hrow, rfl⟩
  · cases hs

theorem insertEvent_eq (h : exactlyOne record (insertEvent i row) c = .ok c') :
    c.events i = none ∧ c' = { c with events := Function.update c.events i (some row) } := by
  have hs := exactlyOne_eq h
  unfold insertEvent at hs
  split at hs
  · split at hs
    · cases hs
    · rename_i hnone
      cases hs
      exact ⟨hnone, rfl⟩
  · cases hs

theorem updateTicket_eq (h : exactlyOne record (updateTicket event i f) c = .ok c') :
    ∃ row, c.tickets i = some row ∧ row.eventId = event ∧
      c' = { c with tickets := Function.update c.tickets i (some (f row)) } := by
  have hs := exactlyOne_eq h
  unfold updateTicket at hs
  split at hs
  · rename_i row hrow
    split at hs
    · rename_i hevent
      cases hs
      exact ⟨row, hrow, hevent, rfl⟩
    · cases hs
  · cases hs

theorem insertTicket_eq (h : exactlyOne record (insertTicket i row) c = .ok c') :
    c.tickets i = none ∧ c' = { c with tickets := Function.update c.tickets i (some row) } := by
  have hs := exactlyOne_eq h
  unfold insertTicket at hs
  split at hs
  · rename_i hnone _
    cases hs
    exact ⟨hnone, rfl⟩
  · cases hs

theorem insertTransfer_eq (h : exactlyOne record (insertTransfer sequence row) c = .ok c') :
    ∃ transfers, c' = { c with transfers := transfers } := by
  have hs := exactlyOne_eq h
  unfold insertTransfer at hs
  split at hs
  · cases hs
    exact ⟨_, rfl⟩
  · cases hs

theorem upsertAttendance_eq
    (h : exactlyOne record (upsertAttendance i event recordedAt sequence) c = .ok c') :
    ∃ attendance, c' = { c with attendance := attendance } := by
  have hs := exactlyOne_eq h
  unfold upsertAttendance at hs
  split at hs
  · cases hs
    exact ⟨_, rfl⟩
  · cases hs
    exact ⟨_, rfl⟩
  · cases hs

theorem insertPass_eq (h : exactlyOne record (insertPass key row) c = .ok c') :
    c.passes key = none ∧ c' = { c with passes := Function.update c.passes key (some row) } := by
  have hs := exactlyOne_eq h
  unfold insertPass at hs
  split at hs
  · rename_i hnone _ _
    cases hs
    exact ⟨hnone, rfl⟩
  · cases hs

theorem applyRegistration_eq
    (h : applyRegistration s sequence record account registration c = .ok c') :
    ∃ credentials, c' = { c with credentials := credentials } := by
  unfold applyRegistration at h
  split at h
  · cases h
  · split at h
    · cases h
    · unfold insertCredential at h
      split at h <;> (cases h; exact ⟨_, rfl⟩)

-- ---------------------------------------------------------------------------
-- One record
-- ---------------------------------------------------------------------------

def LogRecord.creates (record : LogRecord) : Option EventId :=
  match record.entry with
  | .command _ _ (.createEvent event ..) => some event
  | _ => none

def LogRecord.statusOf (i : EventId) (record : LogRecord) : Option EventStatus :=
  match record.entry with
  | .command _ _ (.setEventStatus event status) => if event = i then some status else none
  | _ => none

def LogRecord.receiverOf (i : TicketId) (record : LogRecord) : Option AccountId :=
  match record.entry with
  | .command _ _ (.transferTicket _ ticket receiver) => if ticket = i then some receiver else none
  | _ => none

structure EventKept (record : LogRecord) (i : EventId) (row row' : EventRow) : Prop where
  owner : row'.owner = row.owner
  status : row'.status = (record.statusOf i).getD row.status

/-- What a record leaves of a ticket: one that can be transferred stays so. -/
structure TicketKept (record : LogRecord) (i : TicketId) (row row' : TicketRow) : Prop where
  event : row'.eventId = row.eventId
  holder : row'.holder = (record.receiverOf i).getD row.holder
  transferable : row.cannotTransfer = false → row'.cannotTransfer = false

/-- What one record, applied with its sequence, makes of the copy. -/
structure Applies (sequence : ℕ) (record : LogRecord) (c c' : Copy) : Prop where
  event : ∀ i row, c.events i = some row →
    ∃ row', c'.events i = some row' ∧ EventKept record i row row'
  created : ∀ i row', c.events i = none → c'.events i = some row' → record.creates = some i
  ticket : ∀ i row, c.tickets i = some row →
    ∃ row', c'.tickets i = some row' ∧ TicketKept record i row row'
  /-- A pass is consumed once. -/
  pass : ∀ key, if record.consumes = some key then
      c.passes key = none ∧ ∃ row, c'.passes key = some row ∧ row.sequence = sequence
    else c'.passes key = c.passes key

theorem EventKept.refl (h : record.statusOf i = none) (row : EventRow) :
    EventKept record i row row := ⟨rfl, by rw [h]; rfl⟩

theorem TicketKept.refl (h : record.receiverOf i = none) (row : TicketRow) :
    TicketKept record i row row := ⟨rfl, by rw [h]; rfl, id⟩

/-- A record that concerns no event, no ticket and no pass of the copy. -/
structure Idle (record : LogRecord) : Prop where
  status : ∀ i, record.statusOf i = none
  receiver : ∀ i, record.receiverOf i = none
  consumes : record.consumes = none

theorem Idle.of_tables (hr : Idle record) (hevents : c'.events = c.events)
    (htickets : c'.tickets = c.tickets) (hpasses : c'.passes = c.passes) :
    Applies sequence record c c' where
  event i row hrow := ⟨row, hevents ▸ hrow, .refl (hr.status i) row⟩
  created i row' hnone hrow := by
    rw [hevents, hnone] at hrow
    cases hrow
  ticket i row hrow := ⟨row, htickets ▸ hrow, .refl (hr.receiver i) row⟩
  pass key := by
    rw [hr.consumes, if_neg (by simp), hpasses]

theorem Applies.setEvent (hconsumes : record.consumes = none)
    (hreceiver : ∀ i, record.receiverOf i = none) (hrow : c.events i = some row)
    (hother : ∀ j, j ≠ i → record.statusOf j = none) (hkept : EventKept record i row row')
    (hevents : c'.events = Function.update c.events i (some row'))
    (htickets : ∀ j old, c.tickets j = some old → c'.tickets j = some old)
    (hpasses : c'.passes = c.passes) : Applies sequence record c c' where
  event j old hold := by
    rw [hevents]
    by_cases hji : j = i
    · subst hji
      rw [hrow] at hold
      cases hold
      exact ⟨row', by simp, hkept⟩
    · exact ⟨old, by simpa [hji] using hold, .refl (hother j hji) old⟩
  created j new hnone hnew := by
    rw [hevents] at hnew
    by_cases hji : j = i
    · subst hji
      rw [hrow] at hnone
      cases hnone
    · rw [Function.update_of_ne hji, hnone] at hnew
      cases hnew
  ticket j old hold := ⟨old, htickets j old hold, .refl (hreceiver j) old⟩
  pass key := by rw [hconsumes, if_neg (by simp), hpasses]

theorem Applies.setTicket (hconsumes : record.consumes = none)
    (hstatus : ∀ i, record.statusOf i = none) (hrow : c.tickets i = some row)
    (hother : ∀ j, j ≠ i → record.receiverOf j = none) (hkept : TicketKept record i row row')
    (hevents : c'.events = c.events)
    (htickets : c'.tickets = Function.update c.tickets i (some row'))
    (hpasses : c'.passes = c.passes) : Applies sequence record c c' where
  event j old hold := ⟨old, hevents ▸ hold, .refl (hstatus j) old⟩
  created j new hnone hnew := by
    rw [hevents, hnone] at hnew
    cases hnew
  ticket j old hold := by
    rw [htickets]
    by_cases hji : j = i
    · subst hji
      rw [hrow] at hold
      cases hold
      exact ⟨row', by simp, hkept⟩
    · exact ⟨old, by simpa [hji] using hold, .refl (hother j hji) old⟩
  pass key := by rw [hconsumes, if_neg (by simp), hpasses]

theorem Applies.createEvent (hr : Idle record) (hcreates : record.creates = some i)
    (hnone : c.events i = none) (hevents : c'.events = Function.update c.events i (some row))
    (htickets : c'.tickets = c.tickets) (hpasses : c'.passes = c.passes) :
    Applies sequence record c c' where
  event j old hold := by
    have hji : j ≠ i := by
      rintro rfl
      rw [hnone] at hold
      cases hold
    exact ⟨old, by rw [hevents, Function.update_of_ne hji, hold], .refl (hr.status j) old⟩
  created j new hold hnew := by
    by_cases hji : j = i
    · exact hji ▸ hcreates
    · rw [hevents, Function.update_of_ne hji, hold] at hnew
      cases hnew
  ticket j old hold := ⟨old, htickets ▸ hold, .refl (hr.receiver j) old⟩
  pass key := by rw [hr.consumes, if_neg (by simp), hpasses]

theorem Applies.changeEvent (hr : Idle record)
    (h : exactlyOne record (updateEvent i f) c = .ok c')
    (hf : ∀ row, (f row).owner = row.owner ∧ (f row).status = row.status) :
    Applies sequence record c c' := by
  obtain ⟨row, hrow, rfl⟩ := updateEvent_eq h
  refine .setEvent hr.consumes hr.receiver hrow (fun j _ => hr.status j) ?_ rfl (fun _ _ => id) rfl
  exact ⟨(hf row).1, by rw [hr.status]; exact (hf row).2⟩

theorem idle_of_other (hentry : record.entry = .command operationId signer command)
    (hstatus : ∀ event status, command ≠ .setEventStatus event status)
    (hreceiver : ∀ event ticket receiver, command ≠ .transferTicket event ticket receiver) :
    Idle record := by
  constructor
  · intro i
    unfold LogRecord.statusOf
    split
    · rename_i hcommand
      rw [hentry, Entry.command.injEq] at hcommand
      exact absurd hcommand.2.2 (hstatus _ _)
    · rfl
  · intro i
    unfold LogRecord.receiverOf
    split
    · rename_i hcommand
      rw [hentry, Entry.command.injEq] at hcommand
      exact absurd hcommand.2.2 (hreceiver _ _ _)
    · rfl
  · simp [LogRecord.consumes, hentry]

theorem applyCommand_applies (hentry : record.entry = .command operationId signer command)
    (h : applyCommand s sequence record command c = .ok c') : Applies sequence record c c' := by
  have hconsumes : record.consumes = none := by simp [LogRecord.consumes, hentry]
  cases command with
  | createEvent event salt capacity zones metadata =>
    simp only [applyCommand] at h
    split at h
    · cases h
    · obtain ⟨hnone, rfl⟩ := insertEvent_eq h
      exact .createEvent (idle_of_other hentry (by simp) (by simp))
        (by simp [LogRecord.creates, hentry]) hnone rfl rfl rfl
  | setEventStatus event status =>
    obtain ⟨row, hrow, rfl⟩ := updateEvent_eq h
    refine .setEvent hconsumes (fun i => by simp [LogRecord.receiverOf, hentry]) hrow
      (fun j hj => by simp [LogRecord.statusOf, hentry, Ne.symm hj]) ?_ rfl (fun _ _ => id) rfl
    exact ⟨rfl, by simp [LogRecord.statusOf, hentry]⟩
  | setEventCapacity event capacity =>
    exact .changeEvent (idle_of_other hentry (by simp) (by simp)) h fun _ => ⟨rfl, rfl⟩
  | addZone event zone =>
    exact .changeEvent (idle_of_other hentry (by simp) (by simp)) h fun _ => ⟨rfl, rfl⟩
  | removeZone event zone =>
    exact .changeEvent (idle_of_other hentry (by simp) (by simp)) h fun _ => ⟨rfl, rfl⟩
  | issueTicket input =>
    have hidle : Idle record := idle_of_other hentry (by simp) (by simp)
    simp only [applyCommand] at h
    obtain ⟨c₁, h₁, h₂⟩ := bind_eq_ok.mp h
    obtain ⟨hnone, rfl⟩ := insertTicket_eq h₁
    obtain ⟨row, hrow, rfl⟩ := updateEvent_eq h₂
    refine .setEvent hidle.consumes hidle.receiver hrow (fun j _ => hidle.status j) ?_ rfl
      (fun j old hold => ?_) rfl
    · exact ⟨rfl, by rw [hidle.status]; rfl⟩
    · have hj : j ≠ input.ticket := by
        rintro rfl
        rw [hnone] at hold
        cases hold
      simpa [hj] using hold
  | transferTicket event ticket receiver =>
    simp only [applyCommand] at h
    split at h
    · cases h
    · obtain ⟨c₁, h₁, h₂⟩ := bind_eq_ok.mp h
      obtain ⟨row, hrow, -, rfl⟩ := updateTicket_eq h₁
      obtain ⟨transfers, rfl⟩ := insertTransfer_eq h₂
      refine .setTicket hconsumes (fun i => by simp [LogRecord.statusOf, hentry]) hrow
        (fun j hj => by simp [LogRecord.receiverOf, hentry, Ne.symm hj]) ?_ rfl rfl rfl
      exact ⟨rfl, by simp [LogRecord.receiverOf, hentry], id⟩
  | removeRestriction event ticket restriction =>
    have hidle : Idle record := idle_of_other hentry (by simp) (by simp)
    cases restriction with
    | other name => cases h
    | cannotResale =>
      obtain ⟨row, hrow, -, rfl⟩ := updateTicket_eq h
      refine .setTicket hidle.consumes hidle.status hrow (fun j _ => hidle.receiver j) ?_ rfl rfl rfl
      exact ⟨rfl, by rw [hidle.receiver]; rfl, id⟩
    | cannotTransfer =>
      obtain ⟨row, hrow, -, rfl⟩ := updateTicket_eq h
      refine .setTicket hidle.consumes hidle.status hrow (fun j _ => hidle.receiver j) ?_ rfl rfl rfl
      exact ⟨rfl, by rw [hidle.receiver]; rfl, fun _ => rfl⟩
  | registerCredential account registration =>
    obtain ⟨credentials, rfl⟩ := applyRegistration_eq h
    exact (idle_of_other hentry (by simp) (by simp)).of_tables rfl rfl rfl
  | other kind => cases h

theorem applyAttendance_applies {pass : AccessPass} (hentry : record.entry = .pass pass)
    (h : applyAttendance sequence record pass c = .ok c') : Applies sequence record c c' := by
  have hstatus : ∀ i, record.statusOf i = none := fun i => by simp [LogRecord.statusOf, hentry]
  have hreceiver : ∀ i, record.receiverOf i = none :=
    fun i => by simp [LogRecord.receiverOf, hentry]
  have hconsumes : record.consumes = some (pass.ticket, pass.id) := by
    simp [LogRecord.consumes, hentry]
  unfold applyAttendance at h
  split at h
  · cases h
  · obtain ⟨c₁, h₁, h⟩ := bind_eq_ok.mp h
    obtain ⟨c₂, h₂, h⟩ := bind_eq_ok.mp h
    obtain ⟨row, hrow, -, rfl⟩ := updateTicket_eq h₁
    obtain ⟨attendance, rfl⟩ := upsertAttendance_eq h₂
    split at h
    · cases h
    · obtain ⟨hnone, rfl⟩ := insertPass_eq h
      constructor
      · exact fun i old hold => ⟨old, hold, .refl (hstatus i) old⟩
      · intro i new hold hnew
        rw [hold] at hnew
        cases hnew
      · intro i old hold
        by_cases hi : i = pass.ticket
        · subst hi
          rw [hrow] at hold
          cases hold
          exact ⟨_, Function.update_self .., rfl, by rw [hreceiver]; rfl, id⟩
        · exact ⟨old, by simpa [hi] using hold, .refl (hreceiver i) old⟩
      · intro key
        rw [hconsumes]
        by_cases hkey : (pass.ticket, pass.id) = key
        · subst hkey
          rw [if_pos rfl]
          exact ⟨hnone, _, Function.update_self .., rfl⟩
        · rw [if_neg (by simpa using hkey)]
          exact Function.update_of_ne (Ne.symm hkey) ..

theorem ledgerFacts_applies (h : ledgerFacts s sequence record c = .ok c') :
    Applies sequence record c c' := by
  unfold ledgerFacts at h
  cases hentry : record.entry with
  | command operationId signer command =>
    rw [hentry] at h
    exact applyCommand_applies hentry h
  | pass pass =>
    rw [hentry] at h
    exact applyAttendance_applies hentry h
  | other =>
    rw [hentry] at h
    cases h

-- ---------------------------------------------------------------------------
-- A log
-- ---------------------------------------------------------------------------

def statusSet (i : EventId) (log : List LogRecord) : Option EventStatus :=
  (log.filterMap (LogRecord.statusOf i)).getLast?

def receiverSet (i : TicketId) (log : List LogRecord) : Option AccountId :=
  (log.filterMap (LogRecord.receiverOf i)).getLast?

variable {log : List LogRecord}

theorem last_set (f : LogRecord → Option α) (record : LogRecord) (log : List LogRecord) (old : α) :
    ((log.filterMap f).getLast?).getD ((f record).getD old) =
      (((record :: log).filterMap f).getLast?).getD old := by
  cases hf : f record with
  | none => simp [List.filterMap_cons_none hf]
  | some new =>
    rw [List.filterMap_cons_some hf, List.getLast?_cons]
    rfl

/-- Every event of a copy was there before, or one of the records created it. -/
theorem project_created (h : Copy.project s n c log = .ok c') (hrow : c'.events i = some row) :
    (∃ old, c.events i = some old) ∨ ∃ record ∈ log, record.creates = some i := by
  induction log generalizing n c with
  | nil =>
    cases h
    exact .inl ⟨row, hrow⟩
  | cons record log ih =>
    rw [Copy.project_cons] at h
    obtain ⟨c₁, h₁, h⟩ := bind_eq_ok.mp h
    cases ih h with
    | inr hlater =>
      obtain ⟨r, hr, hcreates⟩ := hlater
      exact .inr ⟨r, List.mem_cons_of_mem _ hr, hcreates⟩
    | inl hmiddle =>
      obtain ⟨middle, hmiddle⟩ := hmiddle
      cases hold : c.events i with
      | some old => exact .inl ⟨old, rfl⟩
      | none =>
        have hcreates := (ledgerFacts_applies h₁).created i middle hold hmiddle
        exact .inr ⟨record, List.mem_cons_self, hcreates⟩

/-- An event stays, with its owner, and with the status last set, if any was. -/
theorem project_event (h : Copy.project s n c log = .ok c') (hrow : c.events i = some row) :
    ∃ row', c'.events i = some row' ∧ row'.owner = row.owner ∧
      row'.status = (statusSet i log).getD row.status := by
  induction log generalizing n c row with
  | nil =>
    cases h
    exact ⟨row, hrow, rfl, rfl⟩
  | cons record log ih =>
    rw [Copy.project_cons] at h
    obtain ⟨c₁, h₁, h⟩ := bind_eq_ok.mp h
    obtain ⟨row₁, hrow₁, hkept⟩ := (ledgerFacts_applies h₁).event i row hrow
    obtain ⟨row', hrow', howner, hstatus⟩ := ih h hrow₁
    refine ⟨row', hrow', howner.trans hkept.owner, ?_⟩
    rw [hstatus, hkept.status, statusSet, last_set, statusSet]

theorem project_ticket (h : Copy.project s n c log = .ok c') (hrow : c.tickets i = some row) :
    ∃ row', c'.tickets i = some row' ∧ row'.eventId = row.eventId ∧
      row'.holder = (receiverSet i log).getD row.holder ∧
      (row.cannotTransfer = false → row'.cannotTransfer = false) := by
  induction log generalizing n c row with
  | nil =>
    cases h
    exact ⟨row, hrow, rfl, rfl, id⟩
  | cons record log ih =>
    rw [Copy.project_cons] at h
    obtain ⟨c₁, h₁, h⟩ := bind_eq_ok.mp h
    obtain ⟨row₁, hrow₁, hkept⟩ := (ledgerFacts_applies h₁).ticket i row hrow
    obtain ⟨row', hrow', hevent, hholder, htransferable⟩ := ih h hrow₁
    refine ⟨row', hrow', hevent.trans hkept.event, ?_, fun hfree => ?_⟩
    · rw [hholder, hkept.holder, receiverSet, last_set, receiverSet]
    · exact htransferable (hkept.transferable hfree)

structure Consumed (past : List LogRecord) (c : Copy) : Prop where
  held : ∀ n record key, past[n]? = some record → record.consumes = some key →
    ∃ row, c.passes key = some row ∧ row.sequence = n
  recorded : ∀ key row, c.passes key = some row →
    ∃ record, past[row.sequence]? = some record ∧ record.consumes = some key

theorem Consumed.empty : Consumed [] .empty where
  held n record key h := by simp at h
  recorded key row h := nomatch h

theorem Consumed.step (h : Consumed past c) (ha : Applies past.length record c c') :
    Consumed (past ++ [record]) c' where
  held n r key hr hkey := by
    have hpass := ha.pass key
    by_cases hn : n < past.length
    · rw [List.getElem?_append_left hn] at hr
      obtain ⟨row, hrow, hsequence⟩ := h.held n r key hr hkey
      split at hpass
      · rw [hpass.1] at hrow
        cases hrow
      · exact ⟨row, hpass ▸ hrow, hsequence⟩
    · have hlast : n = past.length := by
        have hlen := (List.getElem?_eq_some_iff.mp hr).1
        simp at hlen
        omega
      subst hlast
      simp only [List.getElem?_concat_length, Option.some.injEq] at hr
      subst hr
      rw [if_pos hkey] at hpass
      exact hpass.2
  recorded key row hrow := by
    have hpass := ha.pass key
    split at hpass
    · rename_i hkey
      obtain ⟨-, row', hrow', hsequence⟩ := hpass
      rw [hrow] at hrow'
      cases hrow'
      exact ⟨record, by simp [hsequence], hkey⟩
    · rw [hpass] at hrow
      obtain ⟨r, hr, hkey⟩ := h.recorded key row hrow
      have hlt := (List.getElem?_eq_some_iff.mp hr).1
      exact ⟨r, by rw [List.getElem?_append_left hlt, hr], hkey⟩

theorem Consumed.project (h : Consumed past c)
    (hp : Copy.project s past.length c log = .ok c') : Consumed (past ++ log) c' := by
  induction log generalizing past c with
  | nil =>
    cases hp
    simpa using h
  | cons record log ih =>
    rw [Copy.project_cons] at hp
    obtain ⟨c₁, h₁, hp⟩ := bind_eq_ok.mp hp
    have hlater := ih (h.step (ledgerFacts_applies h₁)) (by simpa using hp)
    simpa using hlater

-- ---------------------------------------------------------------------------
-- Credentials
-- ---------------------------------------------------------------------------

theorem applyRegistration_credential {key : AccountId × CredentialId} {row : CredentialRow}
    (h : applyRegistration s sequence record account registration c = .ok c')
    (hrow : c.credentials key = some row) : c'.credentials key = some row := by
  unfold applyRegistration at h
  split at h
  · cases h
  · split at h
    · cases h
    · rename_i named _ _
      unfold insertCredential at h
      split at h
      · cases h
        exact hrow
      · rename_i hnone
        cases h
        have hne : key ≠ named := by
          rintro rfl
          rw [hrow] at hnone
          cases hnone
        simpa [hne] using hrow

theorem ledgerFacts_credential {key : AccountId × CredentialId} {row : CredentialRow}
    (h : ledgerFacts s sequence record c = .ok c') (hrow : c.credentials key = some row) :
    c'.credentials key = some row := by
  unfold ledgerFacts at h
  split at h
  · rename_i command _
    cases command with
    | createEvent =>
      simp only [applyCommand] at h
      split at h
      · cases h
      · obtain ⟨_, rfl⟩ := insertEvent_eq h
        exact hrow
    | setEventStatus | setEventCapacity | addZone | removeZone =>
      obtain ⟨_, _, rfl⟩ := updateEvent_eq h
      exact hrow
    | issueTicket =>
      obtain ⟨c₁, h₁, h₂⟩ := bind_eq_ok.mp h
      obtain ⟨_, rfl⟩ := insertTicket_eq h₁
      obtain ⟨_, _, rfl⟩ := updateEvent_eq h₂
      exact hrow
    | transferTicket =>
      simp only [applyCommand] at h
      split at h
      · cases h
      · obtain ⟨c₁, h₁, h₂⟩ := bind_eq_ok.mp h
        obtain ⟨_, _, _, rfl⟩ := updateTicket_eq h₁
        obtain ⟨_, rfl⟩ := insertTransfer_eq h₂
        exact hrow
    | removeRestriction event ticket restriction =>
      cases restriction with
      | other => cases h
      | cannotResale | cannotTransfer =>
        obtain ⟨_, _, _, rfl⟩ := updateTicket_eq h
        exact hrow
    | registerCredential => exact applyRegistration_credential h hrow
    | other => cases h
  · unfold applyAttendance at h
    split at h
    · cases h
    · obtain ⟨c₁, h₁, h⟩ := bind_eq_ok.mp h
      obtain ⟨c₂, h₂, h⟩ := bind_eq_ok.mp h
      obtain ⟨_, _, _, rfl⟩ := updateTicket_eq h₁
      obtain ⟨_, rfl⟩ := upsertAttendance_eq h₂
      split at h
      · cases h
      · obtain ⟨_, rfl⟩ := insertPass_eq h
        exact hrow
  · cases h

theorem project_credential {key : AccountId × CredentialId} {row : CredentialRow}
    {log : List LogRecord} (h : Copy.project s n c log = .ok c')
    (hrow : c.credentials key = some row) : c'.credentials key = some row := by
  induction log generalizing n c with
  | nil =>
    cases h
    exact hrow
  | cons record log ih =>
    rw [Copy.project_cons] at h
    obtain ⟨c₁, h₁, h⟩ := bind_eq_ok.mp h
    exact ih h (ledgerFacts_credential h₁ hrow)

end Kippu.Derived
