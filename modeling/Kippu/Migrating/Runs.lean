import Kippu.Utf16
import Mathlib.Data.List.Sort
import Mathlib.Logic.Function.Basic

/-!
# Migrations

A build ships numbered migrations. `migrate` applies those the store lacks, each in a
transaction of its own, under a lock that one run holds at a time; a run of any build may be
started at any time, and may fail at any point. `assertMigrated` compares what the store has
applied with a build.
-/

namespace Kippu.Migrating

/-- A run of `migrate`. -/
abbrev Run := ℕ

/-- A file of a build's migrations directory. -/
structure File where
  name : String
  content : String

structure Migration where
  id : String
  sql : String
  checksum : String
  deriving DecidableEq

inductive MigrationError
  | badName (name : String)
  | twoNumbered (number : String)
  | notShipped (id : String)
  | changed (id : String)
  | pending (ids : List String)
  deriving DecidableEq

def MigrationError.message : MigrationError → String
  | .badName name => "migration file name \"" ++ name ++ "\" is not NNNN_snake_case.sql"
  | .twoNumbered number => "two migrations are numbered " ++ number
  | .notShipped id => "the store has applied " ++ id ++ ", which this build does not ship"
  | .changed id => id ++ " has changed since it was applied"
  | .pending ids =>
    "the store has pending migrations (" ++ ", ".intercalate ids ++ "); run `pnpm migrate`"

-- ---------------------------------------------------------------------------
-- `readMigrations`
-- ---------------------------------------------------------------------------

def stem (name : List Char) : List Char := name.take (name.length - 4)

def isSql (name : List Char) : Bool := ['.', 's', 'q', 'l'] <:+ name

/-- `/^(\d{4})_[a-z0-9_]+\.sql$/`: the four digits. -/
def MIGRATION_FILE (name : String) : Option String :=
  match name.toList with
  | a :: b :: c :: d :: '_' :: rest =>
    if [a, b, c, d].all Char.isDigit ∧ isSql rest ∧ stem rest ≠ [] ∧
        (stem rest).all fun x => x.isLower || x.isDigit || x = '_' then
      some (String.ofList [a, b, c, d])
    else none
  | _ => none

/-- The UTF-16 code units of its name, by which files are sorted. -/
def File.key (file : File) : List ℕ := Utf16.encode file.name.toList

def File.Before (f g : File) : Prop := ¬ g.key < f.key

instance : DecidableRel File.Before := fun f g => inferInstanceAs (Decidable (¬ g.key < f.key))

variable (sha256 : String → String)

def readFiles : List File → List String → Except MigrationError (List Migration)
  | [], _ => .ok []
  | file :: files, numbers =>
    match MIGRATION_FILE file.name with
    | none => .error (.badName file.name)
    | some number =>
      if number ∈ numbers then .error (.twoNumbered number)
      else do
        let migrations ← readFiles files (number :: numbers)
        return ⟨String.ofList (stem file.name.toList), file.content, sha256 file.content⟩ ::
          migrations

def readMigrations (directory : List File) : Except MigrationError (List Migration) :=
  readFiles sha256
    ((directory.filter fun file => isSql file.name.toList).insertionSort File.Before) []

def Migration.number (m : Migration) : ℕ := Nat.ofDigitChars 10 (m.id.toList.take 4) 0

-- ---------------------------------------------------------------------------
-- The store
-- ---------------------------------------------------------------------------

structure Row where
  id : String
  checksum : String
  deriving DecidableEq

def Migration.row (m : Migration) : Row := ⟨m.id, m.checksum⟩

inductive Task
  | idle
  /-- It waits for the lock, and then has it. -/
  | locking (all : List Migration)
  | locked (all : List Migration)
  /-- The table is there. -/
  | created (all : List Migration)
  /-- `applied`, between its two statements. -/
  | looked (all : List Migration) (present : Bool)
  | applying (todo : List Migration)
  /-- In a migration's transaction: it has begun, run the migration's SQL and inserted its row. -/
  | begun (m : Migration) (todo : List Migration)
  | executed (m : Migration) (todo : List Migration)
  | inserted (m : Migration) (todo : List Migration)
  | ended

structure State where
  /-- Whether `kippu_migrations` is there. -/
  present : Bool
  rows : List Row
  /-- The migrations whose SQL was committed, in the order it was, which no table holds. -/
  ran : List Migration
  lock : Option Run
  task : Run → Task

def pending (migrations : List Migration) (done : List Row) :
    Except MigrationError (List Migration) :=
  match done.find? fun row => !migrations.any (·.id = row.id) with
  | some row => .error (.notShipped row.id)
  | none =>
    match migrations.find? fun m =>
        (done.find? (·.id = m.id)).any (·.checksum ≠ m.checksum) with
    | some m => .error (.changed m.id)
    | none => .ok (migrations.filter fun m => !done.any (·.id = m.id))

/-- What `applied` answers, which looks for the table in one state and reads it in a later one. -/
def applied (looking reading : State) : List Row := if looking.present then reading.rows else []

def assertMigrated (all : List Migration) (looking reading : State) :
    Except MigrationError Unit :=
  match pending all (applied looking reading) with
  | .error e => .error e
  | .ok [] => .ok ()
  | .ok todo => .error (.pending (todo.map (·.id)))

/-- The state that the last statement of `applied` sees. -/
def lastRead (looking reading : State) : State := if looking.present then reading else looking

-- ---------------------------------------------------------------------------
-- Steps
-- ---------------------------------------------------------------------------

def State.goto (s : State) (r : Run) (t : Task) : State :=
  { s with task := Function.update s.task r t }

/-- A run ends, and its session with it: its transaction is rolled back and its lock freed. -/
def State.leave (s : State) (r : Run) : State :=
  { s with lock := if s.lock = some r then none else s.lock }.goto r .ended

def State.commit (s : State) (m : Migration) : State :=
  { s with rows := s.rows ++ [m.row], ran := s.ran ++ [m] }

/-- Every migration of the one list is numbered above all of the other. -/
def Above (todo ran : List Migration) : Prop := ∀ m ∈ todo, ∀ m' ∈ ran, m'.number < m.number

/-- One step, where a run goes on to apply what is numbered below a migration that the store has
applied only if `outOfOrder` says so. `builds` are the directories that builds ship. -/
inductive Step (builds : List File → Prop) (outOfOrder : Prop) (s : State) : State → Prop
  | starts (r : Run) : s.task r = .idle → builds directory →
      readMigrations sha256 directory = .ok all →
      Step builds outOfOrder s (s.goto r (.locking all))
  | locks (r : Run) : s.task r = .locking all → s.lock = none →
      Step builds outOfOrder s ({ s with lock := some r }.goto r (.locked all))
  | creates (r : Run) : s.task r = .locked all →
      Step builds outOfOrder s ({ s with present := true }.goto r (.created all))
  | looks (r : Run) : s.task r = .created all →
      Step builds outOfOrder s (s.goto r (.looked all s.present))
  | reads (r : Run) : s.task r = .looked all present →
      pending all (if present then s.rows else []) = .ok todo →
      (¬ Above todo s.ran → outOfOrder) → Step builds outOfOrder s (s.goto r (.applying todo))
  | refuses (r : Run) : s.task r = .looked all present →
      pending all (if present then s.rows else []) = .error e →
      Step builds outOfOrder s (s.leave r)
  | begins (r : Run) : s.task r = .applying (m :: todo) →
      Step builds outOfOrder s (s.goto r (.begun m todo))
  | executes (r : Run) : s.task r = .begun m todo →
      Step builds outOfOrder s (s.goto r (.executed m todo))
  /-- The id is the table's primary key. -/
  | inserts (r : Run) : s.task r = .executed m todo → (∀ row ∈ s.rows, row.id ≠ m.id) →
      Step builds outOfOrder s (s.goto r (.inserted m todo))
  | commits (r : Run) : s.task r = .inserted m todo →
      Step builds outOfOrder s ((s.commit m).goto r (.applying todo))
  | finishes (r : Run) : s.task r = .applying [] → Step builds outOfOrder s (s.leave r)
  /-- A statement fails, a migration's SQL among them, or the process stops. -/
  | fails (r : Run) : Step builds outOfOrder s (s.leave r)

inductive Steps (builds : List File → Prop) (outOfOrder : Prop) (s : State) : State → Prop
  | refl : Steps builds outOfOrder s s
  | step : Steps builds outOfOrder s s' → Step sha256 builds outOfOrder s' s'' →
      Steps builds outOfOrder s s''

structure State.Initial (s : State) : Prop where
  present : s.present = false
  rows : s.rows = []
  ran : s.ran = []
  lock : s.lock = none
  task : ∀ r, s.task r = .idle

/-- No two different contents that builds ship have one checksum. -/
def CollisionFree (builds : List File → Prop) : Prop :=
  ∀ d d', builds d → builds d' → ∀ f ∈ d, ∀ f' ∈ d',
    sha256 f.content = sha256 f'.content → f.content = f'.content

end Kippu.Migrating
