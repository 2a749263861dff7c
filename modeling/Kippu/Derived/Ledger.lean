import Kippu.Outside
import Mathlib.Logic.Function.Basic

/-!
# The ledger's log

The records the derived copy reads, and the ledger that accepted them: each
record's effect on the events and tickets it holds, under the rules this
repository documents. What those rules leave to the ledger (who may sign, which
statuses admit which command) only makes fewer logs accepted.

Identifiers and registrations are numbers; a metadata locator is any text.
-/

namespace Kippu.Derived

abbrev PassId := ℕ
abbrev CredentialId := ℕ
abbrev Registration := ℕ
abbrev Locator := String

inductive AttendancePolicy
  | single
  | multiple (max : ℕ) (validUntil : Option Time)
  | unlimited (validUntil : Option Time)
  deriving DecidableEq

inductive Restriction
  | cannotResale
  | cannotTransfer
  | other (name : String)
  deriving DecidableEq

structure Restrictions where
  cannotResale : Bool
  cannotTransfer : Bool
  deriving DecidableEq

structure Ticket where
  event : EventId
  holder : AccountId
  classId : ClassId
  provenance : Provenance
  zone : ZoneId
  placement : Placement
  policy : AttendancePolicy
  restrictions : Restrictions
  attendances : ℕ
  deriving DecidableEq

structure IssueTicket where
  ticket : TicketId
  event : EventId
  zone : ZoneId
  placement : Placement
  classId : ClassId
  provenance : Provenance
  policy : AttendancePolicy
  restrictions : Restrictions
  holder : AccountId

/-- The commands the projections know; `other` is any kind they do not. -/
inductive Command
  | createEvent (event : EventId) (salt : ℕ) (capacity : Option ℕ) (zones : List Zone)
      (metadata : Option Locator)
  | setEventStatus (event : EventId) (status : EventStatus)
  | setEventCapacity (event : EventId) (capacity : Option ℕ)
  | addZone (event : EventId) (zone : Zone)
  | removeZone (event : EventId) (zone : ZoneId)
  | issueTicket (input : IssueTicket)
  | transferTicket (event : EventId) (ticket : TicketId) (receiver : AccountId)
  | removeRestriction (event : EventId) (ticket : TicketId) (restriction : Restriction)
  | registerCredential (account : AccountId) (registration : Registration)
  | other (kind : String)

structure AccessPass where
  id : PassId
  ticket : TicketId
  holder : AccountId
  notBefore : Time
  notAfter : Time

inductive Entry
  | command (operationId : OperationId) (signer : AccountId) (command : Command)
  | pass (pass : AccessPass)
  | other

/-- `event` is the event the record is of, and its place among that event's records. -/
structure LogRecord where
  cursor : Cursor
  recordedAt : Time
  event : Option (EventId × ℕ)
  presentedAt : Option Time
  entry : Entry

-- ---------------------------------------------------------------------------
-- The ledger's state
-- ---------------------------------------------------------------------------

structure RulesConfig where
  maxPassWindow : ℕ
  maxRecordingLag : ℕ

/-- The account and credential id a registration's bytes name. -/
abbrev RegistrationAccount := Registration → Except String (AccountId × CredentialId)

/-- `consumed` says until when a pass that was recorded could still have been. -/
structure Ledger where
  events : EventId → Option Event
  tickets : TicketId → Option Ticket
  consumed : TicketId × PassId → Option Time

namespace Ledger

def empty : Ledger := ⟨fun _ => none, fun _ => none, fun _ => none⟩

def setEvent (l : Ledger) (id : EventId) (e : Event) : Ledger :=
  { l with events := Function.update l.events id (some e) }

def setTicket (l : Ledger) (id : TicketId) (t : Ticket) : Ledger :=
  { l with tickets := Function.update l.tickets id (some t) }

def setConsumed (l : Ledger) (key : TicketId × PassId) (time : Time) : Ledger :=
  { l with consumed := Function.update l.consumed key (some time) }

def changeEvent (l : Ledger) (id : EventId) (f : Event → Event) : Option Ledger :=
  (l.events id).map fun e => l.setEvent id (f e)

def changeTicket (l : Ledger) (event : EventId) (id : TicketId) (f : Ticket → Ticket) :
    Option Ledger :=
  match l.tickets id with
  | some t => if t.event = event then some (l.setTicket id (f t)) else none
  | none => none

end Ledger

/-- A ticket that may not be transferred may not be resold either. -/
def Restrictions.normalised (r : Restrictions) : Restrictions :=
  ⟨r.cannotResale || r.cannotTransfer, r.cannotTransfer⟩

/-- Clears a flag. A ticket that may be resold may be transferred, so that clearing the first flag
clears both. -/
def Restrictions.without (r : Restrictions) : Restriction → Restrictions
  | .cannotResale => ⟨false, false⟩
  | .cannotTransfer => ⟨r.cannotResale, false⟩
  | .other _ => r

def IssueTicket.issued (input : IssueTicket) : Ticket where
  event := input.event
  holder := input.holder
  classId := input.classId
  provenance := input.provenance
  zone := input.zone
  placement := input.placement
  policy := input.policy
  restrictions := input.restrictions.normalised
  attendances := 0

-- ---------------------------------------------------------------------------
-- Accepting a record
-- ---------------------------------------------------------------------------

namespace Ledger

variable (config : RulesConfig) (registrationAccount : RegistrationAccount)

def acceptCommand (l : Ledger) (signer : AccountId) : Command → Option Ledger
  | .createEvent event _ capacity zones _ =>
    match l.events event with
    | none => some (l.setEvent event ⟨signer, .active, capacity, 0, zones⟩)
    | some _ => none
  | .setEventStatus event status => l.changeEvent event fun e => { e with status := status }
  | .setEventCapacity event capacity =>
    l.changeEvent event fun e => { e with maxCapacity := capacity }
  | .addZone event zone => l.changeEvent event fun e => { e with zones := e.zones ++ [zone] }
  | .removeZone event zone =>
    l.changeEvent event fun e => { e with zones := e.zones.filter (·.id ≠ zone) }
  | .issueTicket input =>
    match l.tickets input.ticket with
    | none => (l.setTicket input.ticket input.issued).changeEvent input.event
        fun e => { e with issued := e.issued + 1 }
    | some _ => none
  | .transferTicket event ticket receiver =>
    l.changeTicket event ticket fun t => { t with holder := receiver }
  | .removeRestriction event ticket restriction =>
    match restriction with
    | .other _ => none
    | _ => l.changeTicket event ticket
        fun t => { t with restrictions := t.restrictions.without restriction }
  | .registerCredential account registration =>
    match registrationAccount registration with
    | .ok named => if named.1 = account then some l else none
    | .error _ => none
  | .other _ => none

/-- A pass of the ticket's holder, presented in its window and recorded in time, that was not
recorded while it could still be. -/
def acceptPass (l : Ledger) (event : EventId) (presentedAt recordedAt : Time) (pass : AccessPass) :
    Option Ledger :=
  match l.tickets pass.ticket with
  | some t =>
    if t.event = event ∧ t.holder = pass.holder ∧
        pass.notBefore ≤ presentedAt ∧ presentedAt ≤ pass.notAfter ∧
        pass.notAfter - pass.notBefore ≤ config.maxPassWindow ∧
        recordedAt ≤ pass.notAfter + config.maxRecordingLag ∧
        ∀ time ∈ l.consumed (pass.ticket, pass.id), time < recordedAt then
      some ((l.setTicket pass.ticket { t with attendances := t.attendances + 1 }).setConsumed
        (pass.ticket, pass.id) (pass.notAfter + config.maxRecordingLag))
    else none
  | none => none

/-- The ledger's state after a record it accepts. -/
def accept (l : Ledger) (record : LogRecord) : Option Ledger :=
  match record.entry, record.event, record.presentedAt with
  | .command _ signer command, _, _ => l.acceptCommand registrationAccount signer command
  | .pass pass, some (event, _), some presentedAt =>
    l.acceptPass config event presentedAt record.recordedAt pass
  | _, _, _ => none

/-- The ledger's state after a log, each record of which it accepts. -/
def run (l : Ledger) : List LogRecord → Option Ledger
  | [] => some l
  | record :: log => (l.accept config registrationAccount record).bind fun l' => run l' log

variable {config : RulesConfig} {registrationAccount : RegistrationAccount}

theorem run_append {l : Ledger} :
    l.run config registrationAccount (log ++ later) =
      (l.run config registrationAccount log).bind fun l' =>
        l'.run config registrationAccount later := by
  induction log generalizing l with
  | nil => rfl
  | cons record log ih =>
    simp only [List.cons_append, run]
    cases l.accept config registrationAccount record with
    | none => rfl
    | some l' => exact ih

-- ---------------------------------------------------------------------------
-- An event's owner
-- ---------------------------------------------------------------------------

@[simp] theorem events_setEvent (l : Ledger) :
    (l.setEvent i e).events = Function.update l.events i (some e) := rfl
@[simp] theorem tickets_setTicket (l : Ledger) :
    (l.setTicket i t).tickets = Function.update l.tickets i (some t) := rfl

theorem changeEvent_eq {l : Ledger} :
    l.changeEvent i f = some l' ↔ ∃ e, l.events i = some e ∧ l.setEvent i (f e) = l' := by
  simp [changeEvent]

theorem changeTicket_eq {l : Ledger} :
    l.changeTicket event i f = some l' ↔
      ∃ t, l.tickets i = some t ∧ t.event = event ∧ l.setTicket i (f t) = l' := by
  unfold changeTicket
  cases l.tickets i with
  | none => simp
  | some t => simp

/-- Every event a ledger holds is one a later ledger holds, with the same owner. -/
def OwnersKept (l l' : Ledger) : Prop :=
  ∀ i e, l.events i = some e → ∃ e', l'.events i = some e' ∧ e'.owner = e.owner

theorem OwnersKept.refl (l : Ledger) : OwnersKept l l := fun _ e h => ⟨e, h, rfl⟩

theorem OwnersKept.trans (h : OwnersKept a b) (h' : OwnersKept b c) : OwnersKept a c := by
  intro i e he
  obtain ⟨e', he', ho⟩ := h i e he
  obtain ⟨e'', he'', ho'⟩ := h' i e' he'
  exact ⟨e'', he'', ho'.trans ho⟩

theorem OwnersKept.of_events {l l' : Ledger} (h : l'.events = l.events) : OwnersKept l l' := by
  intro i e he
  exact ⟨e, h ▸ he, rfl⟩

theorem ownersKept_setEvent {l : Ledger} (h : ∀ e, l.events i = some e → e.owner = e'.owner) :
    OwnersKept l (l.setEvent i e') := by
  intro j e he
  by_cases hj : j = i
  · subst hj
    exact ⟨e', by simp, (h e he).symm⟩
  · exact ⟨e, by simpa [hj] using he, rfl⟩

theorem ownersKept_changeEvent {l : Ledger} (h : l.changeEvent i f = some l')
    (hf : ∀ e, (f e).owner = e.owner) : OwnersKept l l' := by
  obtain ⟨e, he, rfl⟩ := changeEvent_eq.mp h
  refine ownersKept_setEvent fun e' he' => ?_
  rw [he] at he'
  cases he'
  exact (hf e).symm

theorem ownersKept_changeTicket {l : Ledger} (h : l.changeTicket event i f = some l') :
    OwnersKept l l' := by
  obtain ⟨t, -, -, rfl⟩ := changeTicket_eq.mp h
  exact .of_events rfl

theorem ownersKept_acceptCommand {l : Ledger}
    (h : l.acceptCommand registrationAccount signer command = some l') : OwnersKept l l' := by
  cases command with
  | createEvent event salt capacity zones metadata =>
    simp only [acceptCommand] at h
    split at h
    · rename_i hnone
      cases h
      exact ownersKept_setEvent fun e he => by rw [hnone] at he; cases he
    · cases h
  | setEventStatus event status => exact ownersKept_changeEvent h fun _ => rfl
  | setEventCapacity event capacity => exact ownersKept_changeEvent h fun _ => rfl
  | addZone event zone => exact ownersKept_changeEvent h fun _ => rfl
  | removeZone event zone => exact ownersKept_changeEvent h fun _ => rfl
  | issueTicket input =>
    simp only [acceptCommand] at h
    split at h
    · have hkept := ownersKept_changeEvent h fun _ => rfl
      exact hkept
    · cases h
  | transferTicket event ticket receiver => exact ownersKept_changeTicket h
  | removeRestriction event ticket restriction =>
    simp only [acceptCommand] at h
    split at h
    · cases h
    · exact ownersKept_changeTicket h
  | registerCredential account registration =>
    simp only [acceptCommand] at h
    split at h
    · split at h
      · cases h
        exact .refl _
      · cases h
    · cases h
  | other kind => simp [acceptCommand] at h

theorem acceptPass_eq {l : Ledger} {pass : AccessPass}
    (h : l.acceptPass config event presentedAt recordedAt pass = some l') :
    ∃ t, l.tickets pass.ticket = some t ∧ t.event = event ∧
      l' = (l.setTicket pass.ticket { t with attendances := t.attendances + 1 }).setConsumed
        (pass.ticket, pass.id) (pass.notAfter + config.maxRecordingLag) := by
  unfold acceptPass at h
  split at h
  · rename_i t ht
    split at h
    · rename_i hc
      cases h
      exact ⟨t, ht, hc.1, rfl⟩
    · cases h
  · cases h

theorem ownersKept_accept {l : Ledger} (h : l.accept config registrationAccount r = some l') :
    OwnersKept l l' := by
  unfold accept at h
  split at h
  · exact ownersKept_acceptCommand h
  · obtain ⟨t, -, -, rfl⟩ := acceptPass_eq h
    exact .of_events rfl
  · cases h

theorem ownersKept_run {l : Ledger} (h : l.run config registrationAccount log = some l') :
    OwnersKept l l' := by
  induction log generalizing l with
  | nil =>
    cases h
    exact .refl _
  | cons record log ih =>
    obtain ⟨m, hm, h⟩ := Option.bind_eq_some_iff.mp h
    exact (ownersKept_accept hm).trans (ih h)

end Ledger

end Kippu.Derived
