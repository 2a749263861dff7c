import Kippu.Conc.Reading
import Kippu.Sponsor.Lag
import Kippu.Sponsor.Standing

/-!
# The relay

A request of the relay, while the reader commits batches: a decision, each of whose reads is of
the copy as it then is; after a refusal, a wait until the copy has reached the cursor the request
names; and a second decision. What is entitled the sponsor's key signs, or fails to. Any number
of requests are served at once, each counting the registrations it sponsors.
-/

namespace Kippu.Relay

open Conc Derived Sponsor

-- ---------------------------------------------------------------------------
-- What there is to read
-- ---------------------------------------------------------------------------

/-- The copy at a position of the log, with the accounts of organisers, and what it answers of
an account's credentials. -/
structure View (s : Services) (log : List LogRecord) where
  position : ℕ
  moment : Moment s log position
  credentials : AccountId → List Registration
  credentials_nil : ∀ a, credentials a = [] ↔ ∀ i, moment.copy.credentials (a, i) = none

variable {s : Services} {log : List LogRecord}

def View.facts (v : View s log) : Facts where
  event i := (v.moment.copy.events i).map EventRow.event
  ticket i := (v.moment.copy.tickets i).map TicketRow.ticket
  credential a i := (v.moment.copy.credentials (a, i)).map CredentialRow.registration
  credentials := v.credentials
  isOrganiserAccount a := v.moment.accounts.contains a

/-- `v'` is no earlier than `v`: the reader only goes forward, and so do the writes of organisers'
accounts. -/
structure View.Le (v v' : View s log) : Prop where
  position : v.position ≤ v'.position
  writes : v.moment.writes <+: v'.moment.writes

-- ---------------------------------------------------------------------------
-- A decision, read by read
-- ---------------------------------------------------------------------------

/-- What the reads of a decision come to: registrations go on to their limit. -/
inductive Verdict
  | decided (decision : EntitlementDecision)
  | registration (account : AccountId)

abbrev Reads (s : Services) (log : List LogRecord) := Reading (View s log)

def verifiedRegistered (profile : V0Profile) (input : SignedInput) (account : AccountId)
    (credential : CredentialId) : Reads s log (Except String AccountId) := do
  match ← Reading.ask (·.facts.credential account credential) with
  | none =>
    return .error
      "the authorising credential is not registered to its account in the derived copy"
  | some registration =>
    if profile.verify registration (profile.payload input) input.authorisation then
      return .ok account
    return .error "the authorisation does not verify"

def verifiedSigner (profile : V0Profile) (input : SignedInput) :
    Reads s log (Except String AccountId) :=
  match profile.accountOf input.authorisation with
  | .error _ => return .error "the authorisation names no account"
  | .ok (account, credential) =>
    match registers input with
    | some (registered, registration) =>
      if registered = account then do
        match ← Reading.ask (·.facts.credentials account) with
        | [] => return verifiedFirst profile input account credential registration
        | _ :: _ => verifiedRegistered profile input account credential
      else verifiedRegistered profile input account credential
    | none => verifiedRegistered profile input account credential

def ownedBy (event : EventId) (signer : AccountId) : Reads s log EntitlementDecision := do
  match ← Reading.ask (·.facts.event event) with
  | none => return .refused s!"no event {event} in the derived copy"
  | some e =>
    if e.owner ≠ signer then
      return .refused s!"the signer does not own event {event}"
    return .entitled (.eventOwned event e.owner)

def decideOther (profile : V0Profile) (command : Derived.Command) (signer : AccountId) :
    Reads s log EntitlementDecision :=
  match command with
  | .setEventStatus event _ | .setEventCapacity event _ | .addZone event _ | .removeZone event _
  | .removeRestriction event _ _ => ownedBy event signer
  | .createEvent event salt _ _ _ =>
    if profile.eventId signer salt ≠ event then
      return .refused "the event id does not derive from the signer"
    else do
      match ← Reading.ask (·.facts.isOrganiserAccount signer) with
      | false => return .refused "the signer is not a Kippu organiser account"
      | true => return .entitled (.eventCreated event signer)
  | .issueTicket input => ownedBy input.event signer
  | .transferTicket event ticket _ => do
    match (← Reading.ask (·.facts.ticket ticket)).filter (·.event = event) with
    | none => return .refused s!"no ticket {ticket} of event {event} in the derived copy"
    | some t =>
      if t.holder ≠ signer then
        return .refused "the signer does not hold the ticket"
      if t.restrictions.cannotTransfer then
        return .refused "the ticket cannot be transferred"
      return .entitled (.ticketHeld ticket signer)
  | command => return .refused s!"no entitlement covers {command.kind}"

def decidePass (pass : AccessPass) : Reads s log EntitlementDecision := do
  match ← Reading.ask (·.facts.ticket pass.ticket) with
  | none => return .refused s!"no ticket {pass.ticket} in the derived copy"
  | some t =>
    match (← Reading.ask (·.facts.event t.event)).map Event.status with
    | none => return .refused s!"no event {t.event} in the derived copy"
    | some .cancelled => return .refused s!"event {t.event} is Cancelled"
    | some .finished => return .refused s!"event {t.event} is Finished"
    | some _ => return .entitled (.passTicketLive pass.ticket t.event)

def decideSigned (profile : V0Profile) (input : SignedInput) (signer : AccountId) :
    Reads s log Verdict :=
  match input with
  | .pass input => Verdict.decided <$> decidePass input.pass
  | .command ⟨_, .registerCredential account _, _⟩ => return .registration account
  | .command input => Verdict.decided <$> decideOther profile input.command signer

def decide (profile : V0Profile) (input : SignedInput) : Reads s log Verdict := do
  match ← verifiedSigner profile input with
  | .error reason => return .decided (.refused reason)
  | .ok signer => decideSigned profile input signer

/-- The decision, and the counters after it: looking at them and counting is one step. -/
def Verdict.conclude (limit : RegistrationRateLimit) (now : Time) (counts : Registrations) :
    Verdict → EntitlementDecision × Registrations
  | .decided decision => (decision, counts)
  | .registration account => decideRegistration limit now account counts

-- ---------------------------------------------------------------------------
-- Requests
-- ---------------------------------------------------------------------------

/-- By status code: 200, 403, 503 and 500. -/
inductive Answer
  | sponsored
  | refused (reason : String)
  | unavailable
  | failed

/-- Where a request stands: in its first decision or its second, waiting between the two, signed
for, or answered. -/
inductive Phase (s : Services) (log : List LogRecord)
  | deciding (second : Bool) (rest : Reads s log Verdict)
  | waiting
  | signing
  | answered (answer : Answer)

/-- `reads` are the positions its last decision has read the copy at. -/
structure Request (s : Services) (log : List LogRecord) where
  input : SignedInput
  after : Option Cursor
  decisions : ℕ
  reads : List ℕ
  phase : Phase s log

structure Deployment where
  log : LogReader
  services : Services
  profile : V0Profile
  limit : RegistrationRateLimit

variable (D : Deployment)

structure State where
  view : View D.services D.log.records
  counts : Registrations
  requests : ℕ → Option (Request D.services D.log.records)

def Deployment.Reached (after : Cursor) (n : ℕ) : Prop :=
  after = LOG_START ∨ ∃ i < n, ∃ record, D.log.records[i]? = some record ∧ record.cursor = after

variable {D}

def State.put (t : State D) (r : ℕ) (request : Request D.services D.log.records) : State D :=
  { t with requests := Function.update t.requests r (some request) }

def Request.start (profile : V0Profile) (second : Bool) (request : Request s log) :
    Request s log :=
  { request with
    decisions := request.decisions + 1
    reads := []
    phase := .deciding second (decide profile request.input) }

/-- What follows a decision: the sponsor's key is to sign what is entitled, and a first refusal is
waited on if the request names a cursor. -/
def Request.decided (second : Bool) (request : Request s log) :
    EntitlementDecision → Request s log
  | .entitled _ => { request with phase := .signing }
  | .refused reason =>
    if second = false ∧ request.after.isSome then { request with phase := .waiting }
    else { request with phase := .answered (.refused reason) }

/-- One step, where the sponsor's key fails to sign only if `keyFails`. -/
inductive Step (keyFails : Prop) (t : State D) : State D → Prop
  /-- The reader commits a batch, or an organiser gets an account. -/
  | commits (view : View D.services D.log.records) : t.view.Le view →
      Step keyFails t { t with view := view }
  | asks (r : ℕ) (input : SignedInput) (after : Option Cursor) : t.requests r = none →
      Step keyFails t (t.put r (Request.start D.profile false ⟨input, after, 0, [], .waiting⟩))
  | reads (r : ℕ) : t.requests r = some request → request.phase = .deciding second (.read next) →
      Step keyFails t (t.put r { request with
        reads := request.reads ++ [t.view.position]
        phase := .deciding second (next t.view) })
  | decides (r : ℕ) (now : Time) : t.requests r = some request →
      request.phase = .deciding second (.done verdict) →
      verdict.conclude D.limit now t.counts = (decision, counts) →
      Step keyFails t (State.put { t with counts := counts } r (request.decided second decision))
  /-- `waitFor` finds the cursor in `derived_log`, or has no need to look. -/
  | reached (r : ℕ) : t.requests r = some request → request.phase = .waiting →
      request.after = some after → D.Reached after t.view.position →
      Step keyFails t (t.put r (request.start D.profile true))
  /-- The copy lags, or cannot be read. -/
  | fails (r : ℕ) : t.requests r = some request →
      request.phase = .waiting ∨ request.phase = .deciding second rest →
      Step keyFails t (t.put r { request with phase := .answered .unavailable })
  | signs (r : ℕ) : t.requests r = some request → request.phase = .signing →
      Step keyFails t (t.put r { request with phase := .answered .sponsored })
  /-- Nothing catches what `issueSponsorship` throws. -/
  | signingFails (r : ℕ) : keyFails → t.requests r = some request → request.phase = .signing →
      Step keyFails t (t.put r { request with phase := .answered .failed })

inductive Steps (keyFails : Prop) (t : State D) : State D → Prop
  | refl : Steps keyFails t t
  | step {t' t'' : State D} : Steps keyFails t t' → Step keyFails t' t'' → Steps keyFails t t''

/-- An input is entitled on a copy as it is, its limit aside. -/
def View.Entitles (profile : V0Profile) (limit : RegistrationRateLimit) (v : View s log)
    (input : SignedInput) : Prop :=
  ∃ counts now entitlement,
    (Sponsor.decide profile limit counts ⟨input, v.facts.queries, now⟩).1 =
      .ok (.entitled entitlement)

end Kippu.Relay
