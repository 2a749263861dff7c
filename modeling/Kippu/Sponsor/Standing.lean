import Kippu.Derived.Frames
import Kippu.Sponsor.Entitlements

/-!
# What a sponsorship rests on

The fact an input was entitled by, on a copy that reflects so many records, and on a
later one. Some facts stand for good: who owns an event, which accounts are
organisers', that a ticket exists, of which event, and that it can be transferred.
A ticket's holder and an event's status are what the log set last.
-/

namespace Kippu.Sponsor

open Derived

structure AccountRow where
  organiser : OrganiserId
  account : AccountId
  registration : Option Registration
  registeredAt : Option Time

/-- The statements that write `organiser_ledger_accounts`. -/
inductive AccountWrite
  | provision (organiser : OrganiserId) (account : AccountId)
  | sign (organiser : OrganiserId) (registration : Registration)
  | register (organiser : OrganiserId) (registeredAt : Time)

/-- An organiser and an account have one row each. -/
def AccountWrite.apply (rows : List AccountRow) : AccountWrite → List AccountRow
  | .provision organiser account =>
    if rows.any fun row => row.organiser = organiser ∨ row.account = account then rows
    else rows ++ [⟨organiser, account, none, none⟩]
  | .sign organiser registration => rows.map fun row =>
    if row.organiser = organiser ∧ row.registration = none then
      { row with registration := some registration }
    else row
  | .register organiser registeredAt => rows.map fun row =>
    if row.organiser = organiser ∧ row.registeredAt = none then
      { row with registeredAt := some registeredAt }
    else row

/-- `sponsor_relay_organiser_accounts`. -/
def accountsAfter (writes : List AccountWrite) : List AccountId :=
  (writes.foldl AccountWrite.apply []).map AccountRow.account

/-- What the relay reads while the copy reflects the first `n` records: the copy, and the accounts
that the writes committed by then have left. -/
structure Moment (s : Services) (log : List LogRecord) (n : ℕ) where
  copy : Copy
  writes : List AccountWrite
  fold : Copy.project s 0 .empty (log.take n) = .ok copy

def Moment.accounts (m : Moment s log n) : List AccountId := accountsAfter m.writes

variable {s : Services} {log : List LogRecord} {n p q : ℕ}

/-- The queries that decide what an entitlement rests on, answered at a moment. -/
structure Moment.Answers (m : Moment s log n) (derived : Queries) : Prop where
  event : ∀ i, derived.event i = .ok ((m.copy.events i).map EventRow.event)
  ticket : ∀ i, derived.ticket i = .ok ((m.copy.tickets i).map TicketRow.ticket)
  isOrganiserAccount : ∀ i, derived.isOrganiserAccount i = .ok (m.accounts.contains i)

def transferEvent : SignedInput → Option EventId
  | .command ⟨_, .transferTicket event _ _, _⟩ => some event
  | _ => none

/-- What an entitlement is by that nothing revokes. -/
def Entitlement.Lasts (m : Moment s log n) (input : SignedInput) : Entitlement → Prop
  | .eventOwned event owner => ∃ row, m.copy.events event = some row ∧ row.owner = owner
  | .eventCreated _ creator => creator ∈ m.accounts
  | .ticketHeld ticket _ => ∃ row, m.copy.tickets ticket = some row ∧
    transferEvent input = some row.eventId ∧ row.cannotTransfer = false
  | .accountCreation _ => True
  | .passTicketLive ticket event => (∃ row, m.copy.tickets ticket = some row ∧ row.eventId = event) ∧
    (m.copy.events event).isSome

/-- What an entitlement is by that a record may change. -/
def Entitlement.Current (m : Moment s log n) : Entitlement → Prop
  | .ticketHeld ticket holder => ∃ row, m.copy.tickets ticket = some row ∧ row.holder = holder
  | .passTicketLive _ event => ∃ row, m.copy.events event = some row ∧
    row.status ≠ .cancelled ∧ row.status ≠ .finished
  | _ => True

structure Entitlement.Holds (m : Moment s log n) (input : SignedInput)
    (entitlement : Entitlement) : Prop where
  lasts : entitlement.Lasts m input
  current : entitlement.Current m

/-- What later records must have left: the ticket with its holder, the event not over, each by the
last record that sets it, if one does. -/
def Entitlement.LeftBy (records : List LogRecord) : Entitlement → Prop
  | .ticketHeld ticket holder => ∀ receiver ∈ receiverSet ticket records, receiver = holder
  | .passTicketLive _ event =>
    ∀ status ∈ statusSet event records, status ≠ .cancelled ∧ status ≠ .finished
  | _ => True

-- ---------------------------------------------------------------------------
-- Entitled by a fact
-- ---------------------------------------------------------------------------

variable {m : Moment s log n} {derived : Queries} {entitlement : Entitlement}

theorem ownedBy_entitled (hm : m.Answers derived)
    (h : ownedBy derived event signer = .ok (.entitled entitlement)) :
    entitlement.Holds m input := by
  unfold ownedBy at h
  rw [hm.event] at h
  cases hrow : m.copy.events event with
  | none => simp [hrow, bind, Except.bind, pure, Except.pure] at h
  | some row =>
    simp only [hrow, Option.map_some, bind, Except.bind, pure, Except.pure] at h
    split at h
    · cases h
    · rename_i howner
      cases h
      exact ⟨⟨row, hrow, rfl⟩, trivial⟩

theorem decideOther_entitled (hm : m.Answers derived)
    (h : decideOther profile derived command signer = .ok (.entitled entitlement)) :
    entitlement.Holds m (.command ⟨operation, command, authorisation⟩) := by
  cases command with
  | setEventStatus event status => exact ownedBy_entitled hm h
  | setEventCapacity event capacity => exact ownedBy_entitled hm h
  | addZone event zone => exact ownedBy_entitled hm h
  | removeZone event zone => exact ownedBy_entitled hm h
  | removeRestriction event ticket restriction => exact ownedBy_entitled hm h
  | issueTicket input => exact ownedBy_entitled hm h
  | createEvent event salt capacity zones metadata =>
    simp only [decideOther] at h
    split at h
    · cases h
    · rw [hm.isOrganiserAccount] at h
      simp only [bind, Except.bind] at h
      split at h
      · cases h
      · rename_i haccount
        cases h
        have hmem : signer ∈ m.accounts := by simpa using haccount
        exact ⟨hmem, trivial⟩
  | transferTicket event ticket receiver =>
    simp only [decideOther, hm.ticket, bind, Except.bind] at h
    cases hrow : m.copy.tickets ticket with
    | none => simp [hrow, pure, Except.pure] at h
    | some row =>
      rw [hrow] at h
      split at h
      · cases h
      · rename_i t ht
        obtain ⟨ht, hevent⟩ := Option.filter_eq_some_iff.mp ht
        cases ht
        have hevent : row.eventId = event := of_decide_eq_true hevent
        split at h
        · cases h
        · rename_i hholder
          split at h
          · cases h
          · rename_i htransfer
            cases h
            have hlasts : (Entitlement.ticketHeld ticket signer).Lasts m
                (.command ⟨operation, .transferTicket event ticket receiver, authorisation⟩) :=
              ⟨row, hrow, by rw [hevent]; rfl, Bool.not_eq_true _ ▸ htransfer⟩
            exact ⟨hlasts, row, hrow, not_not.mp hholder⟩
  | registerCredential account registration => cases h
  | other kind => cases h

theorem decidePass_entitled {pass : AccessPass} (hm : m.Answers derived)
    (h : decidePass derived pass = .ok (.entitled entitlement)) : entitlement.Holds m input := by
  simp only [decidePass, hm.ticket, hm.event, bind, Except.bind] at h
  cases hticket : m.copy.tickets pass.ticket with
  | none => simp [hticket, pure, Except.pure] at h
  | some ticket =>
    simp only [hticket, Option.map_some] at h
    cases hevent : m.copy.events ticket.ticket.event with
    | none => simp [hevent, pure, Except.pure] at h
    | some event =>
      simp only [hevent, Option.map_some] at h
      split at h
      · rename_i hnone
        cases hnone
      · cases h
      · cases h
      · rename_i status hcancelled hfinished hstatus
        cases h
        cases hstatus
        exact ⟨⟨⟨ticket, hticket, rfl⟩, Option.isSome_of_eq_some hevent⟩,
          event, hevent, hcancelled, hfinished⟩

/-- Whatever the relay entitles an input by holds on the copy it decided on. -/
theorem decide_entitled (hm : m.Answers call.derived)
    (h : (decide profile limit counts call).1 = .ok (.entitled entitlement)) :
    entitlement.Holds m call.input := by
  unfold decide at h
  split at h
  · cases h
  · cases h
  · split at h
    · exact decidePass_entitled hm h
    · simp only [decideRegistration] at h
      split at h
      · cases h
      · cases h
        exact ⟨trivial, trivial⟩
    · rename_i hinput
      rw [hinput]
      exact decideOther_entitled hm h

-- ---------------------------------------------------------------------------
-- Later
-- ---------------------------------------------------------------------------

variable {m : Moment s log p} {m' : Moment s log q}

theorem Moment.between (m : Moment s log p) (m' : Moment s log q) (h : p ≤ q) :
    Copy.project s (log.take p).length m.copy ((log.drop p).take (q - p)) = .ok m'.copy := by
  have hsplit : log.take q = log.take p ++ (log.drop p).take (q - p) := by
    rw [← List.take_add, Nat.add_sub_cancel' h]
  have hfold := m'.fold
  rw [hsplit, Copy.project, project_append] at hfold
  have hearlier := m.fold
  rw [Copy.project] at hearlier
  rw [hearlier, Nat.zero_add] at hfold
  exact hfold

theorem getD_iff {P : α → Prop} (set : Option α) (h : P old) :
    P (set.getD old) ↔ ∀ new ∈ set, P new := by
  cases set with
  | none => simp [h]
  | some new => simp

theorem AccountWrite.account_kept (write : AccountWrite) {rows : List AccountRow}
    (h : a ∈ rows.map AccountRow.account) : a ∈ (write.apply rows).map AccountRow.account := by
  cases write with
  | provision organiser account =>
    simp only [apply]
    split
    · exact h
    · rw [List.map_append]
      exact List.mem_append_left _ h
  | sign organiser registration =>
    simp only [apply, List.map_map]
    convert h using 2
    funext row
    simp only [Function.comp_apply]
    split <;> rfl
  | register organiser registeredAt =>
    simp only [apply, List.map_map]
    convert h using 2
    funext row
    simp only [Function.comp_apply]
    split <;> rfl

theorem accounts_kept {writes later : List AccountWrite} (h : writes <+: later) :
    accountsAfter writes ⊆ accountsAfter later := by
  obtain ⟨rest, rfl⟩ := h
  intro a ha
  rw [accountsAfter, List.foldl_append]
  rw [accountsAfter] at ha
  generalize writes.foldl AccountWrite.apply [] = rows at ha ⊢
  induction rest generalizing rows with
  | nil => exact ha
  | cons write rest ih => exact ih _ (write.account_kept ha)

theorem Entitlement.lasts_later {input : SignedInput} (h : p ≤ q) (hwrites : m.writes <+: m'.writes)
    (hm : entitlement.Lasts m input) : entitlement.Lasts m' input := by
  have hbetween := m.between m' h
  cases entitlement with
  | eventOwned event owner =>
    obtain ⟨row, hrow, rfl⟩ := hm
    obtain ⟨row', hrow', howner, -⟩ := project_event hbetween hrow
    exact ⟨row', hrow', howner⟩
  | eventCreated event creator => exact accounts_kept hwrites hm
  | accountCreation account => trivial
  | ticketHeld ticket holder =>
    obtain ⟨row, hrow, hevent, htransfer⟩ := hm
    obtain ⟨row', hrow', hevent', -, htransfer'⟩ := project_ticket hbetween hrow
    exact ⟨row', hrow', hevent.trans (by rw [hevent']), htransfer' htransfer⟩
  | passTicketLive ticket event =>
    obtain ⟨⟨t, ht, hevent⟩, hsome⟩ := hm
    obtain ⟨row, hrow⟩ := Option.isSome_iff_exists.mp hsome
    obtain ⟨t', ht', hevent', -⟩ := project_ticket hbetween ht
    obtain ⟨row', hrow', -⟩ := project_event hbetween hrow
    exact ⟨⟨t', ht', hevent'.trans hevent⟩, Option.isSome_of_eq_some hrow'⟩

theorem Entitlement.current_later (h : p ≤ q) (hm : entitlement.Current m) :
    entitlement.Current m' ↔ entitlement.LeftBy ((log.drop p).take (q - p)) := by
  have hbetween := m.between m' h
  generalize (log.drop p).take (q - p) = records at hbetween ⊢
  cases entitlement with
  | eventOwned | eventCreated | accountCreation => exact ⟨fun _ => trivial, fun _ => trivial⟩
  | ticketHeld ticket holder =>
    obtain ⟨row, hrow, hholder⟩ := hm
    obtain ⟨row', hrow', -, hholder', -⟩ := project_ticket hbetween hrow
    have hleft := getD_iff (P := (· = holder)) (receiverSet ticket records) hholder
    rw [← hholder'] at hleft
    refine Iff.trans ⟨?_, fun heq => ⟨row', hrow', heq⟩⟩ hleft
    rintro ⟨other, hother, heq⟩
    rw [hrow'] at hother
    cases hother
    exact heq
  | passTicketLive ticket event =>
    obtain ⟨row, hrow, hstatus⟩ := hm
    obtain ⟨row', hrow', -, hstatus'⟩ := project_event hbetween hrow
    have hleft := getD_iff (P := fun status : EventStatus => status ≠ .cancelled ∧ status ≠ .finished)
      (statusSet event records) hstatus
    rw [← hstatus'] at hleft
    refine Iff.trans ⟨?_, fun hnot => ⟨row', hrow', hnot⟩⟩ hleft
    rintro ⟨other, hother, hnot⟩
    rw [hrow'] at hother
    cases hother
    exact hnot

/-- An input entitled on a copy, by facts that hold there. On a copy that reflects more records those
that nothing revokes hold as well: who owns the event, that the account is an organiser's, that the
ticket exists, is of its event and can be transferred. A ticket's holder is the same exactly when the
last transfer between, if there is one, is to the same holder, and a pass's event is not over exactly
when the status last set between, if one is, is neither `Cancelled` nor `Finished`. -/
theorem entitled_later_iff (profile : V0Profile) (limit : RegistrationRateLimit) (s : Services)
    (log : List LogRecord) (p q : ℕ) (hpq : p ≤ q) (m : Moment s log p) (m' : Moment s log q)
    (hwrites : m.writes <+: m'.writes) (counts : Registrations) (call : Call)
    (hanswers : m.Answers call.derived) (entitlement : Entitlement)
    (h : (decide profile limit counts call).1 = .ok (.entitled entitlement)) :
    entitlement.Holds m call.input ∧ entitlement.Lasts m' call.input ∧
      (entitlement.Current m' ↔ entitlement.LeftBy ((log.drop p).take (q - p))) := by
  have hholds := decide_entitled hanswers h
  have hlasts := Entitlement.lasts_later hpq hwrites hholds.lasts
  exact ⟨hholds, hlasts, Entitlement.current_later hpq hholds.current⟩

-- ---------------------------------------------------------------------------
-- A grant that lag alone explains
-- ---------------------------------------------------------------------------

/-- Account 9 is registered and gets a ticket, which it transfers to account 10. -/
def transferred : List LogRecord :=
  [⟨1, 10, none, none, .command 1 9 (.registerCredential 9 0)⟩,
   ⟨2, 20, some (1, 0), none, .command 2 7 (.createEvent 1 2 none [⟨3, .unseated⟩] none)⟩,
   ⟨3, 30, some (1, 1), none, .command 3 7 (.issueTicket
      ⟨5, 1, 3, .unseated 8, 4, .granted, .unlimited none, ⟨false, false⟩, 9⟩)⟩,
   ⟨4, 40, some (1, 2), none, .command 4 9 (.transferTicket 1 5 10)⟩]

def anyRegistration : Services where
  getEvent _ _ := .ok ⟨7, .active, none, 0, []⟩
  registrationAccount _ := .ok (9, 0)

def transferredAt (n : ℕ) : Copy :=
  ((Copy.project anyRegistration 0 .empty (transferred.take n)).toOption).getD .empty

/-- An organiser has an account; its registration is signed while the copy lags. -/
def beforeTransfer : Moment anyRegistration transferred 3 :=
  ⟨transferredAt 3, [.provision 1 7], rfl⟩
def afterTransfer : Moment anyRegistration transferred 4 :=
  ⟨transferredAt 4, [.provision 1 7, .sign 1 0], rfl⟩

def Moment.queries (m : Moment s log n) : Queries where
  event i := .ok ((m.copy.events i).map EventRow.event)
  ticket i := .ok ((m.copy.tickets i).map TicketRow.ticket)
  credential account credential :=
    .ok ((m.copy.credentials (account, credential)).map CredentialRow.registration)
  credentials account :=
    .ok ((m.copy.credentials (account, 0)).map CredentialRow.registration).toList
  isOrganiserAccount i := .ok (m.accounts.contains i)

def holderProfile : V0Profile where
  accountOf _ := .ok (9, 0)
  encodeCommand _ _ := 0
  encodePass _ := 0
  registrationAccount _ := .ok (9, 0)
  verify _ _ _ := true
  eventId _ _ := 1

def transferAgain : SignedInput := .command ⟨11, .transferTicket 1 5 12, 0⟩

theorem lag_grants_transfer :
    (decide holderProfile ⟨1, 1⟩ .empty ⟨transferAgain, beforeTransfer.queries, 0⟩).1 =
        .ok (.entitled (.ticketHeld 5 9)) ∧
      (decide holderProfile ⟨1, 1⟩ .empty ⟨transferAgain, afterTransfer.queries, 0⟩).1 =
        .ok (.refused "the signer does not hold the ticket") ∧
      Entitlement.Holds beforeTransfer transferAgain (.ticketHeld 5 9) ∧
      ¬ Entitlement.Holds afterTransfer transferAgain (.ticketHeld 5 9) := by
  refine ⟨rfl, rfl, ⟨⟨_, rfl, rfl, rfl⟩, _, rfl, rfl⟩, ?_⟩
  rintro ⟨-, row, hrow, hholder⟩
  cases hrow
  cases hholder

theorem entitled_later_iff_transferred :
    Entitlement.Lasts afterTransfer transferAgain (.ticketHeld 5 9) ∧
      (Entitlement.Current afterTransfer (.ticketHeld 5 9) ↔
        Entitlement.LeftBy ((transferred.drop 3).take (4 - 3)) (.ticketHeld 5 9)) :=
  (entitled_later_iff holderProfile ⟨1, 1⟩ anyRegistration transferred 3 4 (by decide)
    beforeTransfer afterTransfer (List.prefix_append [_] [_]) .empty
    ⟨transferAgain, beforeTransfer.queries, 0⟩
    ⟨fun _ => rfl, fun _ => rfl, fun _ => rfl⟩ (.ticketHeld 5 9) rfl).2

end Kippu.Sponsor
