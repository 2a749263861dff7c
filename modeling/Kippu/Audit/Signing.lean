import Mathlib.Data.List.Basic
import Mathlib.Logic.Function.Basic

/-!
# Signing with organisers' keys

Who reaches an organiser's key, and after what. An organiser's account is
provisioned, which signs the key's own registration; every write is relayed with
a signer that records an audit row, and behind it one that reads the row back
before it calls the KMS. The SDK may ask for signatures of any bytes at any time.
Each task is at a point of its code; the store or the KMS may fail at any of them.
-/

namespace Kippu.Audit

abbrev Bytes := List UInt8
abbrev OperationId := String
abbrev CommandKind := String
abbrev OrganiserId := String
abbrev KeyRef := ℕ

structure Command where
  operationId : OperationId
  kind : CommandKind

structure ProfileV0 where
  COMMAND_SIGNING_TAG : Bytes
  /-- `none` when it throws. -/
  decodeCommand : Bytes → Option Command
  p256AuthorisationDigest : Bytes → Bytes
  p256RegistrationDigest : Bytes → Bytes
  publicKey : KeyRef → Bytes

/-- The command a V0 command signing payload authorises, if the bytes are one. -/
def commandOfSigningPayload (profile : ProfileV0) (payload : Bytes) : Option Command :=
  if payload.length ≤ profile.COMMAND_SIGNING_TAG.length ∨
      ¬profile.COMMAND_SIGNING_TAG.isPrefixOf payload then none
  else profile.decodeCommand (payload.drop profile.COMMAND_SIGNING_TAG.length)

-- ---------------------------------------------------------------------------
-- The audit log
-- ---------------------------------------------------------------------------

structure RelayRequest where
  requestId : String
  principal : String

inductive AuditOutcome
  | settled (cursor : String)
  | rejected (errorCode : String)
  | failed
  deriving DecidableEq

/-- A row of `audit_log`; its outcome is none while it is pending. -/
structure AuditRow where
  request : RelayRequest
  commandKind : CommandKind
  outcome : Option AuditOutcome

abbrev AuditLog := OperationId → Option AuditRow

def AuditLog.record (log : AuditLog) (request : RelayRequest) (command : Command) :
    Except String AuditLog :=
  match log command.operationId with
  | some _ => .error s!"operation {command.operationId} is already recorded"
  | none => .ok (Function.update log command.operationId (some ⟨request, command.kind, none⟩))

/-- Records how a recorded write ended. A write's outcome is recorded once. -/
def AuditLog.complete (log : AuditLog) (operationId : OperationId) (outcome : AuditOutcome) :
    Except String AuditLog :=
  match log operationId with
  | some ⟨request, kind, none⟩ =>
    .ok (Function.update log operationId (some ⟨request, kind, some outcome⟩))
  | _ => .error s!"operation {operationId} has no pending audit row"

-- ---------------------------------------------------------------------------
-- Tasks
-- ---------------------------------------------------------------------------

structure AccountRow where
  keyRef : KeyRef
  registration : Bool
  registered : Bool

/-- A relayed write under way: whose key signs it, for which request, and which operation
its audited signer recorded last. -/
structure Relay where
  key : KeyRef
  request : RelayRequest
  recorded : Option OperationId

inductive AuthorityPoint
  | account
  | signRegistration (key : KeyRef)
  | storeRegistration (key : KeyRef)
  | relayRegistration
  | awaitRegistration
  | storeRegistered
  | relayWrite

inductive Task
  /-- `provision` for an organiser; with `write`, what `relay` does next. -/
  | authority (organiser : OrganiserId) (request : RelayRequest) (write : Bool)
      (point : AuthorityPoint)
  /-- The audited signer's `audit.record`. -/
  | record (relay : ℕ) (payload : Bytes) (command : Command)
  /-- The organiser signer's `audit.find`. -/
  | find (key : KeyRef) (payload : Bytes) (command : Command)
  /-- The organiser signer's `kms.sign`. -/
  | sign (key : KeyRef) (payload : Bytes)
  /-- The relay's `audit.complete`. -/
  | complete (operationId : OperationId) (outcome : AuditOutcome)

structure Signing where
  task : ℕ
  key : KeyRef
  digest : Bytes

structure State where
  audit : AuditLog
  accounts : OrganiserId → Option AccountRow
  nextKey : KeyRef
  relays : ℕ → Option Relay
  nextRelay : ℕ
  tasks : ℕ → Option Task
  nextTask : ℕ
  signed : List Signing

def State.put (s : State) (t : ℕ) (task : Option Task) : State :=
  { s with tasks := Function.update s.tasks t task }

def State.spawn (s : State) (task : Task) : State :=
  { s with tasks := Function.update s.tasks s.nextTask (some task), nextTask := s.nextTask + 1 }

/-- Begins a relayed write: the SDK call gets the audited signer of an organiser's key. -/
def State.relay (s : State) (key : KeyRef) (request : RelayRequest) : State :=
  { s with
    relays := Function.update s.relays s.nextRelay (some ⟨key, request, none⟩)
    nextRelay := s.nextRelay + 1 }

def State.setAccount (s : State) (organiser : OrganiserId) (row : AccountRow) : State :=
  { s with accounts := Function.update s.accounts organiser (some row) }

def State.kmsSign (s : State) (t : ℕ) (key : KeyRef) (digest : Bytes) : State :=
  { s with signed := s.signed ++ [⟨t, key, digest⟩] }

variable (profile : ProfileV0)

def provisioned (organiser : OrganiserId) (request : RelayRequest) (write : Bool) : Option Task :=
  if write then some (.authority organiser request write .relayWrite) else none

def withAccount (organiser : OrganiserId) (request : RelayRequest) (write : Bool)
    (row : AccountRow) : Option Task :=
  if row.registered then provisioned organiser request write
  else if row.registration then some (.authority organiser request write .relayRegistration)
  else some (.authority organiser request write (.signRegistration row.keyRef))

/-- The audited signer, asked to sign: it refuses bytes that are not a command. -/
def auditedSign (relay : ℕ) (payload : Bytes) : Option Task :=
  (commandOfSigningPayload profile payload).map (.record relay payload)

/-- The organiser's signer, asked to sign: it refuses bytes that are not a command. -/
def organiserSign (key : KeyRef) (payload : Bytes) : Option Task :=
  (commandOfSigningPayload profile payload).map (.find key payload)

/-- The signer goes on to the KMS only with a pending row of the command's kind. -/
def withRow (key : KeyRef) (payload : Bytes) (command : Command) : Option AuditRow → Option Task
  | none => none
  | some row =>
    if row.outcome ≠ none ∨ row.commandKind ≠ command.kind then none
    else some (.sign key payload)

-- ---------------------------------------------------------------------------
-- Steps
-- ---------------------------------------------------------------------------

inductive Step (s : State) : State → Prop
  /-- A request needs an organiser's account, or relays a write of theirs. -/
  | begin (organiser : OrganiserId) (request : RelayRequest) (write : Bool) :
      Step s (s.spawn (.authority organiser request write .account))
  | accountFound : s.tasks t = some (.authority organiser request write .account) →
      s.accounts organiser = some row →
      Step s (s.put t (withAccount organiser request write row))
  /-- A key is created and inserted while the organiser's row is locked. -/
  | accountCreated : s.tasks t = some (.authority organiser request write .account) →
      s.accounts organiser = none →
      Step s (State.put
        { s.setAccount organiser ⟨s.nextKey, false, false⟩ with nextKey := s.nextKey + 1 } t
        (withAccount organiser request write ⟨s.nextKey, false, false⟩))
  | registrationSigned :
      s.tasks t = some (.authority organiser request write (.signRegistration key)) →
      Step s ((s.kmsSign t key (profile.p256RegistrationDigest (profile.publicKey key))).put t
        (some (.authority organiser request write (.storeRegistration key))))
  /-- Stored unless another task stored one before; then that one is used. -/
  | registrationStored :
      s.tasks t = some (.authority organiser request write (.storeRegistration key)) →
      s.accounts organiser = some row →
      Step s ((s.setAccount organiser { row with registration := true }).put t
        (some (.authority organiser request write .relayRegistration)))
  | registrationRelayed :
      s.tasks t = some (.authority organiser request write .relayRegistration) →
      s.accounts organiser = some row →
      Step s ((s.relay row.keyRef request).put t
        (some (.authority organiser request write .awaitRegistration)))
  | registrationAccepted :
      s.tasks t = some (.authority organiser request write .awaitRegistration) →
      Step s (s.put t (some (.authority organiser request write .storeRegistered)))
  | registeredStored : s.tasks t = some (.authority organiser request write .storeRegistered) →
      s.accounts organiser = some row →
      Step s ((s.setAccount organiser { row with registered := true }).put t
        (provisioned organiser request write))
  | writeRelayed : s.tasks t = some (.authority organiser request write .relayWrite) →
      s.accounts organiser = some row →
      Step s ((s.relay row.keyRef request).put t none)
  /-- The SDK asks a relay's signer to sign some bytes, and they are a command. -/
  | signerCalled : s.relays r = some relay → auditedSign profile r payload = some task →
      Step s (s.spawn task)
  /-- The row is inserted; the signer behind is asked to sign. -/
  | recorded : s.tasks t = some (.record r payload command) → s.relays r = some relay →
      s.audit.record relay.request command = .ok log →
      Step s (State.put
        { s with
          audit := log
          relays := Function.update s.relays r
            (some { relay with recorded := some command.operationId }) }
        t (organiserSign profile relay.key payload))
  /-- The row is inserted, but the answer is lost. -/
  | recordLost : s.tasks t = some (.record r payload command) → s.relays r = some relay →
      s.audit.record relay.request command = .ok log →
      Step s (State.put { s with audit := log } t none)
  | found : s.tasks t = some (.find key payload command) →
      Step s (s.put t (withRow key payload command (s.audit command.operationId)))
  | signed : s.tasks t = some (.sign key payload) →
      Step s ((s.kmsSign t key (profile.p256AuthorisationDigest payload)).put t none)
  /-- A relay's submission ended; more than once, when what follows throws. -/
  | ended : s.relays r = some relay → relay.recorded = some operationId →
      Step s (s.spawn (.complete operationId outcome))
  | completed : s.tasks t = some (.complete operationId outcome) →
      s.audit.complete operationId outcome = .ok log →
      Step s (State.put { s with audit := log } t none)
  /-- The store, the KMS or the ledger fails, a row is missing or already there, or the
  process stops. -/
  | fails : s.tasks t = some task → Step s (s.put t none)

inductive Steps (s : State) : State → Prop
  | refl : Steps s s
  | step : Steps s s' → Step profile s' s'' → Steps s s''

structure State.Initial (s : State) : Prop where
  tasks : ∀ t, s.tasks t = none
  relays : ∀ r, s.relays r = none
  signed : s.signed = []

end Kippu.Audit
