import Kippu.Conc.Table
import Kippu.Derived.LedgerFacts

/-!
# Entitlements

Which signed inputs the relay sponsors. The account an input names is its signer
only if its authorisation verifies against a registration of that account in the
derived copy, or, for an account's first registration, against the one it
carries. The registrations sponsored are counted by account, in memory; looking
at the counter and counting is one step, whatever is read before it.
-/

namespace Kippu.Sponsor

open Conc Derived

abbrev Authorisation := ℕ
abbrev Payload := ℕ

structure SignedCommand where
  operationId : OperationId
  command : Derived.Command
  authorisation : Authorisation

structure SignedAccessPass where
  pass : AccessPass
  authorisation : Authorisation

inductive SignedInput
  | command (input : SignedCommand)
  | pass (input : SignedAccessPass)

def SignedInput.authorisation : SignedInput → Authorisation
  | .command input => input.authorisation
  | .pass input => input.authorisation

/-- The V0 profile: whom an authorisation claims to be of, whether it verifies. -/
structure V0Profile where
  accountOf : Authorisation → Except String (AccountId × CredentialId)
  encodeCommand : OperationId → Derived.Command → Payload
  encodePass : AccessPass → Payload
  registrationAccount : RegistrationAccount
  verify : Registration → Payload → Authorisation → Bool
  eventId : AccountId → ℕ → EventId

def V0Profile.payload (profile : V0Profile) : SignedInput → Payload
  | .command input => profile.encodeCommand input.operationId input.command
  | .pass input => profile.encodePass input.pass

inductive StoreError
  | unavailable
  deriving DecidableEq

/-- What the queries of one decision answer, each when it is asked. -/
structure Queries where
  event : EventId → Except StoreError (Option Event)
  ticket : TicketId → Except StoreError (Option Derived.Ticket)
  credential : AccountId → CredentialId → Except StoreError (Option Registration)
  credentials : AccountId → Except StoreError (List Registration)
  isOrganiserAccount : AccountId → Except StoreError Bool

inductive Entitlement
  | eventOwned (event : EventId) (owner : AccountId)
  | eventCreated (event : EventId) (creator : AccountId)
  | ticketHeld (ticket : TicketId) (holder : AccountId)
  | accountCreation (account : AccountId)
  | passTicketLive (ticket : TicketId) (event : EventId)
  deriving DecidableEq

inductive EntitlementDecision
  | entitled (entitlement : Entitlement)
  | refused (reason : String)
  deriving DecidableEq

structure RegistrationRateLimit where
  registrations : ℕ
  window : ℕ

/-- Sponsored registrations by account, by when they were sponsored. -/
abbrev Registrations := Table (List Time)

def SWEEP_THRESHOLD : ℕ := 10000

-- ---------------------------------------------------------------------------
-- The signer
-- ---------------------------------------------------------------------------

def registers : SignedInput → Option (AccountId × Registration)
  | .command ⟨_, .registerCredential account registration, _⟩ => some (account, registration)
  | _ => none

/-- Verifies an authorisation against the registration the copy holds of its credential. -/
def verifiedRegistered (profile : V0Profile) (derived : Queries) (input : SignedInput)
    (account : AccountId) (credential : CredentialId) :
    Except StoreError (Except String AccountId) := do
  match ← derived.credential account credential with
  | none =>
    return .error
      "the authorising credential is not registered to its account in the derived copy"
  | some registration =>
    if profile.verify registration (profile.payload input) input.authorisation then
      return .ok account
    return .error "the authorisation does not verify"

/-- An account's first registration is authorised by the credential it registers. -/
def verifiedFirst (profile : V0Profile) (input : SignedInput) (account : AccountId)
    (credential : CredentialId) (registration : Registration) : Except String AccountId :=
  match profile.registrationAccount registration with
  | .ok named =>
    if named.1 = account ∧ named.2 = credential ∧
        profile.verify registration (profile.payload input) input.authorisation = true then
      .ok account
    else .error "a first registration must be authorised by the credential it registers"
  | .error _ => .error "a first registration must be authorised by the credential it registers"

def verifiedSigner (profile : V0Profile) (derived : Queries) (input : SignedInput) :
    Except StoreError (Except String AccountId) := do
  match profile.accountOf input.authorisation with
  | .error _ => return .error "the authorisation names no account"
  | .ok (account, credential) =>
    match registers input with
    | some (registered, registration) =>
      if registered = account then
        if (← derived.credentials account) = [] then
          return verifiedFirst profile input account credential registration
      verifiedRegistered profile derived input account credential
    | none => verifiedRegistered profile derived input account credential

-- ---------------------------------------------------------------------------
-- Decisions that read only the copy
-- ---------------------------------------------------------------------------

def ownedBy (derived : Queries) (event : EventId) (signer : AccountId) :
    Except StoreError EntitlementDecision := do
  match ← derived.event event with
  | none => return .refused s!"no event {event} in the derived copy"
  | some e =>
    if e.owner ≠ signer then
      return .refused s!"the signer does not own event {event}"
    return .entitled (.eventOwned event e.owner)

def decideOther (profile : V0Profile) (derived : Queries) (command : Derived.Command)
    (signer : AccountId) :
    Except StoreError EntitlementDecision := do
  match command with
  | .setEventStatus event _ | .setEventCapacity event _ | .addZone event _ | .removeZone event _
  | .removeRestriction event _ _ => ownedBy derived event signer
  | .createEvent event salt _ _ _ =>
    if profile.eventId signer salt ≠ event then
      return .refused "the event id does not derive from the signer"
    if (← derived.isOrganiserAccount signer) = false then
      return .refused "the signer is not a Kippu organiser account"
    return .entitled (.eventCreated event signer)
  | .issueTicket input => ownedBy derived input.event signer
  | .transferTicket event ticket _ =>
    match (← derived.ticket ticket).filter (·.event = event) with
    | none => return .refused s!"no ticket {ticket} of event {event} in the derived copy"
    | some t =>
      if t.holder ≠ signer then
        return .refused "the signer does not hold the ticket"
      if t.restrictions.cannotTransfer then
        return .refused "the ticket cannot be transferred"
      return .entitled (.ticketHeld ticket signer)
  | command => return .refused s!"no entitlement covers {command.kind}"

def decidePass (derived : Queries) (pass : AccessPass) : Except StoreError EntitlementDecision := do
  match ← derived.ticket pass.ticket with
  | none => return .refused s!"no ticket {pass.ticket} in the derived copy"
  | some t =>
    match (← derived.event t.event).map Event.status with
    | none => return .refused s!"no event {t.event} in the derived copy"
    | some .cancelled => return .refused s!"event {t.event} is Cancelled"
    | some .finished => return .refused s!"event {t.event} is Finished"
    | some _ => return .entitled (.passTicketLive pass.ticket t.event)

-- ---------------------------------------------------------------------------
-- The registration rate limit
-- ---------------------------------------------------------------------------

/-- Forgets accounts with no registration inside the window, once there are many. -/
def sweep (limit : RegistrationRateLimit) (now : Time) (counts : Registrations) : Registrations :=
  if counts.ids.card < SWEEP_THRESHOLD then counts
  else counts.eraseAll fun times => times.all (· + limit.window ≤ now)

def recent (limit : RegistrationRateLimit) (now : Time) (counts : Registrations)
    (account : AccountId) : List Time :=
  ((counts.get account).getD []).filter (now < · + limit.window)

def decideRegistration (limit : RegistrationRateLimit) (now : Time) (account : AccountId)
    (counts : Registrations) : EntitlementDecision × Registrations :=
  let swept := sweep limit now counts
  let times := recent limit now swept account
  if limit.registrations ≤ times.length then
    (.refused "too many registrations sponsored for this account; try again later",
      swept.set account times)
  else (.entitled (.accountCreation account), swept.set account (times ++ [now]))

-- ---------------------------------------------------------------------------
-- Deciding
-- ---------------------------------------------------------------------------

/-- One call of `decide`: its input, what its queries answer, and the clock when it counts. -/
structure Call where
  input : SignedInput
  derived : Queries
  now : Time

def decide (profile : V0Profile) (limit : RegistrationRateLimit) (counts : Registrations)
    (call : Call) : Except StoreError EntitlementDecision × Registrations :=
  match verifiedSigner profile call.derived call.input with
  | .error e => (.error e, counts)
  | .ok (.error reason) => (.ok (.refused reason), counts)
  | .ok (.ok signer) =>
    match call.input with
    | .pass input => (decidePass call.derived input.pass, counts)
    | .command ⟨_, .registerCredential account _, _⟩ =>
      let decided := decideRegistration limit call.now account counts
      (.ok decided.1, decided.2)
    | .command input => (decideOther profile call.derived input.command signer, counts)

def Call.signedBy (profile : V0Profile) (account : AccountId) (call : Call) : Bool :=
  verifiedSigner profile call.derived call.input == .ok (.ok account)

def decisionsOf (profile : V0Profile) (limit : RegistrationRateLimit) (account : AccountId) :
    Registrations → List Call → List (Except StoreError EntitlementDecision)
  | _, [] => []
  | counts, call :: calls =>
    let decided := decide profile limit counts call
    let rest := decisionsOf profile limit account decided.2 calls
    if call.signedBy profile account then decided.1 :: rest else rest

end Kippu.Sponsor
