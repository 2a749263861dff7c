import Kippu.Store
import Mathlib.Logic.Function.Basic

/-!
# An organiser's key and account

Every process provisions an organiser's ledger account with the first request that needs
it: under a lock of the organiser's row a key is created and recorded; the key's
registration is signed, stored and submitted by whoever finds it missing, each in a step
of its own. Keys are cached by reference in each process. A call may fail, or its process
stop, at any point.
-/

namespace Kippu.Authorities

/-- A call of `provision` or of `relay`: each runs once. -/
abbrev Call := ℕ
abbrev Process := ℕ
abbrev KeyRef := ℕ
/-- Stands for a key of the KMS, and for its public key. -/
abbrev Key := ℕ

/-- A key's self-registration: no two signatures need be the same. -/
structure Registration where
  key : Key
  signature : ℕ
  deriving DecidableEq

structure AccountRow where
  keyRef : KeyRef
  account : AccountId
  registration : Option Registration
  /-- `registered_at` is set. -/
  registered : Bool

/-- `UPDATE … SET registration … WHERE registration IS NULL`. -/
def AccountRow.storeRegistration (row : AccountRow) (registration : Registration) : AccountRow :=
  { row with registration := some (row.registration.getD registration) }

def AccountRow.storeRegistered (row : AccountRow) : AccountRow :=
  { row with registered := true }

inductive Command
  | registerCredential (account : AccountId) (registration : Registration)
  /-- A command of the write that `relay` was given. -/
  | write

/-- Where a call is, for its organiser; `write` says whether it goes on to relay a write. -/
inductive Task
  | idle
  /-- `accountRow`: it found no row, waits for the organiser's row and has it locked. -/
  | locking (o : OrganiserId) (write : Bool)
  | locked (o : OrganiserId) (write : Bool)
  | created (o : OrganiserId) (write : Bool) (keyRef : KeyRef) (key : Key)
  | inserted (o : OrganiserId) (write : Bool) (row : AccountRow)
  /-- `provision`, with the row it was answered, and then with its key. -/
  | found (o : OrganiserId) (write : Bool) (row : AccountRow)
  | keyed (o : OrganiserId) (write : Bool) (row : AccountRow) (key : Key)
  | selfSigned (o : OrganiserId) (write : Bool) (key : Key) (registration : Registration)
  | stored (o : OrganiserId) (write : Bool) (key : Key)
  | registering (o : OrganiserId) (write : Bool) (row : AccountRow) (key : Key)
  | submitted (o : OrganiserId) (write : Bool) (account : AccountId)
  | accepted (o : OrganiserId) (write : Bool)
  /-- `relay`, after `provision`. -/
  | provisioned (o : OrganiserId)
  | read (o : OrganiserId) (row : AccountRow)
  | relaying (o : OrganiserId) (key : Key)
  | ended

/-- A command signed for an organiser, and whether the ledger had accepted a registration of the
key's account by then. -/
structure Signing where
  organiser : OrganiserId
  key : Key
  command : Command
  registered : Bool

structure State where
  rows : OrganiserId → Option AccountRow
  /-- Whose row was ever committed, each time one was. -/
  inserted : List OrganiserId
  /-- Which call has an organiser's row locked. -/
  lock : OrganiserId → Option Call
  /-- The keys the KMS holds. -/
  kms : KeyRef → Option Key
  cache : Process → KeyRef → Option Key
  /-- The accounts of which a `registerCredential` was submitted to the ledger, and accepted. -/
  submitted : AccountId → Bool
  registered : AccountId → Bool
  signed : List Signing
  task : Call → Task

-- ---------------------------------------------------------------------------
-- Statements of the source
-- ---------------------------------------------------------------------------

variable (p256AccountId : Key → AccountId) (process : Call → Process)

def State.keyOf (s : State) (p : Process) (keyRef : KeyRef) : Option Key :=
  (s.cache p keyRef).or (s.kms keyRef)

def State.cached (s : State) (p : Process) (keyRef : KeyRef) (key : Key) : State :=
  { s with cache := Function.update s.cache p (Function.update (s.cache p) keyRef (some key)) }

def State.goto (s : State) (c : Call) (t : Task) : State :=
  { s with task := Function.update s.task c t }

def State.lockOrganiser (s : State) (c : Call) (o : OrganiserId) : State :=
  { s with lock := Function.update s.lock o (some c) }

def State.unlock (s : State) (c : Call) : State :=
  { s with lock := fun o => if s.lock o = some c then none else s.lock o }

def State.createKey (s : State) (keyRef : KeyRef) (key : Key) : State :=
  { s with kms := Function.update s.kms keyRef (some key) }

def State.setRow (s : State) (o : OrganiserId) (row : AccountRow) : State :=
  { s with rows := Function.update s.rows o (some row), inserted := s.inserted ++ [o] }

def State.updateRow (s : State) (o : OrganiserId) (f : AccountRow → AccountRow) : State :=
  { s with rows := Function.update s.rows o ((s.rows o).map f) }

def State.sign (s : State) (o : OrganiserId) (key : Key) (command : Command) : State :=
  { s with signed := s.signed ++ [⟨o, key, command, s.registered (p256AccountId key)⟩] }

def State.submit (s : State) (a : AccountId) : State :=
  { s with submitted := Function.update s.submitted a true }

def State.accept (s : State) (a : AccountId) : State :=
  { s with registered := Function.update s.registered a true }

def State.restart (s : State) (p : Process) : State :=
  { s with cache := Function.update s.cache p fun _ => none }

def afterProvision (o : OrganiserId) (write : Bool) : Task :=
  if write then .provisioned o else .ended

-- ---------------------------------------------------------------------------
-- Steps
-- ---------------------------------------------------------------------------

inductive Step (s : State) : State → Prop
  -- `accountRow`
  | reads (c : Call) (o : OrganiserId) (write : Bool) : s.task c = .idle → s.rows o = some row →
      Step s (s.goto c (.found o write row))
  | readsNone (c : Call) (o : OrganiserId) (write : Bool) : s.task c = .idle →
      s.rows o = none → Step s (s.goto c (.locking o write))
  | locks (c : Call) : s.task c = .locking o write → s.lock o = none →
      Step s ((s.lockOrganiser c o).goto c (.locked o write))
  /-- Another call has inserted the row meanwhile. -/
  | readsAgain (c : Call) : s.task c = .locked o write → s.rows o = some row →
      Step s ((s.unlock c).goto c (.found o write row))
  /-- The KMS names a new key. -/
  | creates (c : Call) (keyRef : KeyRef) (key : Key) : s.task c = .locked o write →
      s.rows o = none → s.kms keyRef = none →
      Step s (((s.createKey keyRef key).cached (process c) keyRef key).goto c
        (.created o write keyRef key))
  | inserts (c : Call) : s.task c = .created o write keyRef key → s.rows o = none →
      Step s (s.goto c (.inserted o write ⟨keyRef, p256AccountId key, none, false⟩))
  | commits (c : Call) : s.task c = .inserted o write row →
      Step s (((s.setRow o row).unlock c).goto c (.found o write row))
  -- `provision`
  | registeredAlready (c : Call) : s.task c = .found o write row → row.registered = true →
      Step s (s.goto c (afterProvision o write))
  | findsKey (c : Call) (key : Key) : s.task c = .found o write row → row.registered = false →
      s.keyOf (process c) row.keyRef = some key →
      Step s ((s.cached (process c) row.keyRef key).goto c (.keyed o write row key))
  | signsRegistration (c : Call) (signature : ℕ) : s.task c = .keyed o write row key →
      row.registration = none →
      Step s (s.goto c (.selfSigned o write key ⟨key, signature⟩))
  | storesRegistration (c : Call) : s.task c = .selfSigned o write key registration →
      Step s ((s.updateRow o (·.storeRegistration registration)).goto c (.stored o write key))
  | readsRegistration (c : Call) : s.task c = .stored o write key → s.rows o = some row →
      Step s (s.goto c (.registering o write row key))
  | hasRegistration (c : Call) : s.task c = .keyed o write row key → row.registration ≠ none →
      Step s (s.goto c (.registering o write row key))
  /-- `ledger.registerCredential`: the command is signed, and then submitted. -/
  | signsRegister (c : Call) : s.task c = .registering o write row key →
      row.registration = some registration →
      Step s (((s.sign p256AccountId o key (.registerCredential row.account registration)).submit
        row.account).goto c (.submitted o write row.account))
  /-- The ledger accepts a `registerCredential`, whether or not its call hears of it. -/
  | accepts (a : AccountId) : s.submitted a = true → Step s (s.accept a)
  | hears (c : Call) : s.task c = .submitted o write a → s.registered a = true →
      Step s (s.goto c (.accepted o write))
  | storesRegistered (c : Call) : s.task c = .accepted o write →
      Step s ((s.updateRow o AccountRow.storeRegistered).goto c (afterProvision o write))
  -- `relay`
  | readsRow (c : Call) : s.task c = .provisioned o → s.rows o = some row →
      Step s (s.goto c (.read o row))
  | findsItsKey (c : Call) (key : Key) : s.task c = .read o row →
      s.keyOf (process c) row.keyRef = some key →
      Step s ((s.cached (process c) row.keyRef key).goto c (.relaying o key))
  /-- As often as the SDK asks. -/
  | signs (c : Call) : s.task c = .relaying o key → Step s (s.sign p256AccountId o key .write)
  /-- A statement, the KMS or the ledger fails, or the process stops. -/
  | stops (c : Call) : Step s ((s.unlock c).goto c .ended)
  /-- A process starts anew, with an empty cache. -/
  | restarts (p : Process) : Step s (s.restart p)

inductive Steps (s : State) : State → Prop
  | refl : Steps s s
  | step {s' s'' : State} : Steps s s' → Step p256AccountId process s' s'' → Steps s s''

structure State.Initial (s : State) : Prop where
  rows : ∀ o, s.rows o = none
  inserted : s.inserted = []
  cache : ∀ p r, s.cache p r = none
  signed : s.signed = []
  task : ∀ c, s.task c = .idle

/-- From one state to a later one, an organiser's row stays: its key, its account, and its
registration once set. -/
def State.RowStays (s s' : State) : Prop :=
  ∀ o row, s.rows o = some row → ∃ row', s'.rows o = some row' ∧ row'.keyRef = row.keyRef ∧
    row'.account = row.account ∧ ∀ g, row.registration = some g → row'.registration = some g

/-- What was signed for organisers was signed by their row's key, the registration submitted is the
row's, and no other command was signed before the ledger had accepted one. -/
def State.SignedByRow (s : State) : Prop :=
  ∀ x ∈ s.signed, ∃ row, s.rows x.organiser = some row ∧ s.kms row.keyRef = some x.key ∧
    p256AccountId x.key = row.account ∧
    match x.command with
    | .registerCredential a g => a = row.account ∧ row.registration = some g
    | .write => x.registered = true

end Kippu.Authorities
