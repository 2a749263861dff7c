import Kippu.Store

/-!
# The ledger, the payment provider and the clock

What kippu-api calls outside its store. The ledger holds events and tickets and
decides each command it is sent; a command it refuses changes nothing. A command
that was signed and has no verdict yet may still be accepted or refused later.
The payment provider holds hosted checkouts; one that is not open stays as it is.
Any call may fail, before or after it took effect.

The time, random values and the verdict on anything the modelled rules leave open
are the outside's choice.
-/

namespace Kippu

open Conc

structure Zone where
  id : ZoneId
  kind : ZoneKind
  deriving DecidableEq

structure Event where
  owner : AccountId
  status : EventStatus
  /-- `none` when issuance is unbounded. -/
  maxCapacity : Option ℕ
  issued : ℕ
  zones : List Zone

/-- A ticket's place: a seat's position, or a random discriminator. -/
inductive Placement
  | seated (position : String)
  | unseated (discriminator : ℕ)
  deriving DecidableEq

def Placement.kind : Placement → ZoneKind
  | .seated _ => .seated
  | .unseated _ => .unseated

/-- The identifiers the V0 profile derives, and the normalisation of text they rest on. -/
class Profile where
  ticketId : EventId → ZoneId → Placement → TicketId
  /-- Unicode normalisation form C of a well-formed string. -/
  nfc : String → String

/-- Ticket ids are injective in event, zone and placement. -/
def Profile.Injective [Profile] : Prop :=
  ∀ e z p e' z' p', Profile.ticketId e z p = Profile.ticketId e' z' p' → e = e' ∧ z = z' ∧ p = p'

structure Ticket where
  event : EventId
  zone : ZoneId
  placement : Placement
  classId : ClassId
  provenance : Provenance
  holder : AccountId

structure IssueTicket where
  event : EventId
  zone : ZoneId
  placement : Placement
  classId : ClassId
  provenance : Provenance
  holder : AccountId

def IssueTicket.ticket (input : IssueTicket) : Ticket where
  event := input.event
  zone := input.zone
  placement := input.placement
  classId := input.classId
  provenance := input.provenance
  holder := input.holder

inductive Command
  | issueTicket (input : IssueTicket)
  | registerCredential (account : AccountId)

def Command.kind : Command → CommandKind
  | .issueTicket _ => .issueTicket
  | .registerCredential _ => .registerCredential

/-- Where a command stands: not signed, signed and without a verdict, decided, or past its
lifetime. -/
inductive SubmissionState
  | assembled
  | inflight
  | accepted (cursor : Cursor)
  | refused (code : Code)
  | expired
  deriving DecidableEq

structure Submission where
  command : Command
  state : SubmissionState

/-- A hosted checkout, as the payment provider reports it. -/
structure HostedCheckout where
  status : HostedCheckoutStatus
  url : ℕ
  amount : ℕ
  asset : Asset
  holdId : HoldId

structure CreateHostedCheckout where
  holdId : HoldId
  amount : ℕ
  asset : Asset
  expiresAt : Time

/-- The world outside the store. -/
structure Env where
  events : Table Event
  tickets : Table Ticket
  submissions : Table Submission
  checkouts : Table HostedCheckout

-- ---------------------------------------------------------------------------
-- Errors
-- ---------------------------------------------------------------------------

/-- The transport class of a `RefusedRequest`. -/
inductive Transport
  | badRequest
  | conflict
  | preconditionFailed
  deriving DecidableEq

inductive CheckoutRefusal
  | unknownCheckout
  | holdRequired
  | linkUnconfirmed
  | alreadyPaid
  | holdEnded
  | salesClosed
  deriving DecidableEq

/-- The errors the modelled functions throw: a `SpecCodeError`, a `RefusedRequest`, a
`CheckoutError`, an `AuditError`, any other, and a failure of the store or of a service. -/
inductive Err
  | spec (code : Code) (detail : String) (reason : Option String)
  | refused (message : String) (transport : Transport) (reason : Option String)
  | checkout (code : CheckoutRefusal) (message : String)
  | audit (message : String)
  | error (message : String)
  | uniqueViolation
  | checkViolation
  | unavailable
  deriving DecidableEq

instance : Broken Err := ⟨.unavailable⟩

-- ---------------------------------------------------------------------------
-- The ledger
-- ---------------------------------------------------------------------------

def notActive : EventStatus → Option Code
  | .active => none
  | .sealed => some .eventSealed
  | .cancelled => some .eventCancelled
  | .finished => some .eventFinished

/-- Issues a ticket under the id derived for it, or refuses it. -/
def issueOnLedger [Profile] (env : Env) (input : IssueTicket) : Except Code Env :=
  match env.events.get input.event with
  | none => .error .eventNotFound
  | some event =>
    match notActive event.status with
    | some code => .error code
    | none =>
      match event.zones.find? (·.id = input.zone) with
      | none => .error .unknownZone
      | some zone =>
        let id := Profile.ticketId input.event input.zone input.placement
        if zone.kind ≠ input.placement.kind then .error .zoneKindMismatch
        else if (env.tickets.get id).isSome then .error .ticketIdExists
        else if event.maxCapacity.any (· ≤ event.issued) then .error .capacityExceeded
        else .ok
          { env with
            events := env.events.set input.event { event with issued := event.issued + 1 }
            tickets := env.tickets.set id input.ticket }

def judge [Profile] (env : Env) (s : Submission) : Except Code Env :=
  match s.command with
  | .issueTicket input => issueOnLedger env input
  | .registerCredential _ => .ok env

/-- The ledger decides a command that is in flight. It may refuse one for a rule not modelled
(who may sign, say); one it refuses changes nothing. -/
def settle [Profile] (env : Env) (op : OperationId) (s : Submission) (refuse : Bool)
    (cursor : Cursor) : Env :=
  let refused code := { env with
    submissions := env.submissions.set op { s with state := .refused code } }
  if refuse then refused .other
  else match judge env s with
    | .error code => refused code
    | .ok env' => { env' with
        submissions := env'.submissions.set op { s with state := .accepted cursor } }

/-- An answer that may not come back. -/
def reply (c : Choice) (a : α) : Except Err α :=
  if c.answered then .ok a else .error .unavailable

-- ---------------------------------------------------------------------------
-- Calls
-- ---------------------------------------------------------------------------

/-- The calls outside the store: the clock and the random source, the ledger through its SDK,
the organisers' keys, the payment provider. -/
inductive Call : Type → Type
  | now : Call Time
  | random : Call ℕ
  | getEvent (event : EventId) : Call (Except Code Event)
  | getTicket (ticket : TicketId) : Call (Except Code Ticket)
  | assemble (command : Command) : Call OperationId
  | sign (operation : OperationId) : Call Unit
  | verdict (operation : OperationId) : Call (Except Code Cursor)
  | createKey (organiser : OrganiserId) : Call AccountId
  | key (organiser : OrganiserId) : Call Unit
  | signRegistration (organiser : OrganiserId) : Call Unit
  | createCheckout (input : CreateHostedCheckout) : Call (ProviderCheckoutId × HostedCheckout)
  | retrieve (checkout : ProviderCheckoutId) : Call HostedCheckout

/-- The command is known to the ledger's SDK, under an operation id no other command has. -/
def assemble (env : Env) (c : Choice) (command : Command) : Env × Except Err OperationId :=
  if c.answered && (env.submissions.get c.value).isNone then
    ({ env with submissions := env.submissions.set c.value ⟨command, .assembled⟩ }, .ok c.value)
  else (env, .error .unavailable)

/-- A command is signed, and so may reach the ledger from now on. -/
def sign (env : Env) (c : Choice) (op : OperationId) : Env × Except Err Unit :=
  match env.submissions.get op with
  | some s =>
    if c.answered ∧ s.state = .assembled then
      ({ env with submissions := env.submissions.set op { s with state := .inflight } }, .ok ())
    else (env, .error .unavailable)
  | none => (env, .error .unavailable)

def land [Profile] (env : Env) (op : OperationId) (refuse : Bool) (cursor : Cursor) : Env :=
  match env.submissions.get op with
  | some s => if s.state = .inflight then settle env op s refuse cursor else env
  | none => env

/-- Waits for the verdict on a command: the one the ledger gave, or the one it gives now. -/
def awaitVerdict [Profile] (env : Env) (c : Choice) (op : OperationId) :
    Env × Except Err (Except Code Cursor) :=
  let env' := if c.reached then land env op (c.value = 0) c.value else env
  match (env'.submissions.get op).map Submission.state with
  | some (.accepted cursor) => (env', reply c (.ok cursor))
  | some (.refused code) => (env', reply c (.error code))
  | _ => (env', .error .unavailable)

def createCheckout (env : Env) (c : Choice) (input : CreateHostedCheckout) :
    Env × Except Err (ProviderCheckoutId × HostedCheckout) :=
  if c.reached && (env.checkouts.get c.value).isNone then
    let created : HostedCheckout :=
      { status := .opened, url := c.value, amount := input.amount, asset := input.asset,
        holdId := input.holdId }
    ({ env with checkouts := env.checkouts.set c.value created }, reply c (c.value, created))
  else (env, .error .unavailable)

instance [Profile] : Outside Env Err Call where
  run call _ c env := match call with
    | .now => (env, .ok c.value)
    | .random => (env, .ok c.value)
    | .getEvent e => (env, reply c <| match env.events.get e with
        | some event => .ok event
        | none => .error .eventNotFound)
    | .getTicket t => (env, reply c <| match env.tickets.get t with
        | some ticket => .ok ticket
        | none => .error .ticketNotFound)
    | .assemble command => assemble env c command
    | .sign op => sign env c op
    | .verdict op => awaitVerdict env c op
    | .createKey _ => (env, reply c c.value)
    | .key _ => (env, reply c ())
    | .signRegistration _ => (env, reply c ())
    | .createCheckout input => createCheckout env c input
    | .retrieve k => (env, match env.checkouts.get k with
        | some row => reply c row
        | none => .error .unavailable)

end Kippu
