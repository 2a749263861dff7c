import Kippu.Conc.Rules
import Kippu.Conc.Table
import Kippu.Derived.Projection

/-!
# The reader

It pulls the ledger's log from a durable cursor, in batches. A batch (what every
projection changes, the record of what was applied, and the new cursor) is one
transaction, and the cursor's row is locked for its length. A reader's run is one
request for each of its steps.
-/

namespace Kippu.Derived

open Conc Conc.Prog

-- ---------------------------------------------------------------------------
-- The store and the log
-- ---------------------------------------------------------------------------

structure LogRow where
  cursor : Cursor
  recordedAt : Time
  eventId : Option EventId
  eventSequence : Option ℕ
  entryKind : String
  operationId : Option OperationId
  presentedAt : Option Time
  deriving DecidableEq

/-- The cursor the log is read from at its start. -/
def LOG_START : Cursor := 0

/-- The row of `derived_reader`, the table `derived_log`, and what the projections keep. -/
structure ReaderDb (C : Type) where
  cursor : Cursor
  nextSequence : ℕ
  log : Table LogRow
  copy : C

def ReaderDb.migrated (c : C) : ReaderDb C := ⟨LOG_START, 0, .empty, c⟩

/-- A log of the ledger's: what is read from a cursor is the fixed continuation after it. -/
structure LogReader where
  records : List LogRecord
  continuation : Cursor → List LogRecord
  start : continuation LOG_START = records
  after : ∀ n record, records[n]? = some record →
    continuation record.cursor = records.drop (n + 1)

/-- A page of the log: its records, and the cursor to read from next. -/
structure Page where
  records : List LogRecord
  next : Cursor

inductive LogCall : Type → Type
  | read (cursor : Cursor) (limit : ℕ) : LogCall Page

inductive ReaderKey
  | readerRow
  deriving DecidableEq

inductive ReaderError (E : Type)
  | ledgerRead
  | logContract (message : String)
  | projection (e : E)
  | uniqueViolation
  | unavailable

instance : Broken (ReaderError E) := ⟨.unavailable⟩

/-- The log may answer with any page of the continuation, with any cursor to read from next. -/
instance : Outside LogReader (ReaderError E) LogCall where
  run call _ choice log :=
    match call with
    | .read cursor _ =>
      let records := log.continuation cursor
      let pages := records.length + 1
      if choice.answered then
        (log, .ok ⟨records.take (choice.value % pages), choice.value / pages⟩)
      else (log, .error .ledgerRead)

abbrev ReaderProg (C E : Type) := Prog (ReaderDb C) ReaderKey LogCall (ReaderError E)

-- ---------------------------------------------------------------------------
-- One step
-- ---------------------------------------------------------------------------

structure ReaderPosition where
  cursor : Cursor
  nextSequence : ℕ

structure AppliedBatch extends ReaderPosition where
  records : List LogRecord

variable {C E : Type}

def LogRecord.row (record : LogRecord) : LogRow where
  cursor := record.cursor
  recordedAt := record.recordedAt
  eventId := record.event.map Prod.fst
  eventSequence := record.event.map Prod.snd
  entryKind := Derived.entryKind record
  operationId :=
    match record.entry with
    | .command operationId _ _ => some operationId
    | _ => none
  presentedAt := record.presentedAt

/-- Records one applied record, so that the copy can say which cursors it has reached. -/
def recordApplied (sequence : ℕ) (record : LogRecord) : ReaderProg C E Unit := do
  let taken ← read fun db => (db.log.get sequence).isSome || db.log.any (·.cursor = record.cursor)
  if taken then
    raise .uniqueViolation
  else
    write fun db => { db with log := db.log.set sequence record.row }

/-- `SELECT cursor, next_sequence FROM derived_reader FOR UPDATE`. -/
def readPosition : ReaderProg C E ReaderPosition := do
  lock .readerRow
  read fun db => ⟨db.cursor, db.nextSequence⟩

def applyProjection (sequence : ℕ) (record : LogRecord) (projection : Projection C E) :
    ReaderProg C E Unit := do
  let copy ← read ReaderDb.copy
  match projection sequence record copy with
  | .ok copy' => write fun db => { db with copy := copy' }
  | .error e => raise (.projection e)

def applyRecord (projections : List (Projection C E)) (sequence : ℕ) (record : LogRecord) :
    ReaderProg C E ℕ := do
  recordApplied sequence record
  forEach projections (applyProjection sequence record)
  pure (sequence + 1)

def contractError (cursor : Cursor) (batchSize : ℕ) (page : Page) : Option String :=
  if batchSize < page.records.length then
    some s!"asked for {batchSize} records, got {page.records.length}"
  else if page.next ≠ (page.records.getLast?.map LogRecord.cursor).getD cursor then
    some "a page's next cursor is not its last record's cursor"
  else none

/-- The statements of a batch, between `BEGIN` and its end. -/
def applyBatch (projections : List (Projection C E)) (batchSize : ℕ) :
    ReaderProg C E AppliedBatch := do
  let start ← readPosition
  let page ← ext (.read start.cursor batchSize)
  match contractError start.cursor batchSize page with
  | some message => raise (.logContract message)
  | none =>
    if page.records = [] then
      pure ⟨start, []⟩
    else do
      let sequence ← foldEach page.records start.nextSequence (applyRecord projections)
      write fun db => { db with cursor := page.next, nextSequence := sequence }
      -- The notification of the batch, delivered on commit.
      write id
      pure ⟨⟨page.next, sequence⟩, page.records⟩

/-- Ends the transaction of a batch: an empty one is rolled back. -/
def endBatch (batch : AppliedBatch) : ReaderProg C E Unit :=
  if batch.records = [] then rollback else commit

/-- What follows a batch: after an error, a `ROLLBACK` that may fail too. -/
def finish : Except (ReaderError E) AppliedBatch → ReaderProg C E AppliedBatch
  | .ok batch => do
      release
      pure batch
  | .error e => do
      let _ ← attempt rollback
      release
      raise e

/-- Pulls and applies at most one batch. -/
def step (projections : List (Projection C E)) (batchSize : ℕ) : ReaderProg C E AppliedBatch := do
  connect
  let r ← attempt do
    begin
    let batch ← applyBatch projections batchSize
    endBatch batch
    pure batch
  finish r

def readers (projections : List (Projection C E)) :
    Sys (ReaderDb C) LogReader ReaderKey LogCall (ReaderError E) where
  Req := { batchSize : ℕ // 0 < batchSize }
  Ans := AppliedBatch
  Event := Empty
  program batchSize := step projections batchSize
  occur e := e.elim

-- ---------------------------------------------------------------------------
-- Whatever applies a record
-- ---------------------------------------------------------------------------

/-- As `applyRecord`, with the statements that apply a record written out. -/
def applyRecordOf (apply : ℕ → LogRecord → ReaderProg C E Unit) (sequence : ℕ) (record : LogRecord) :
    ReaderProg C E ℕ := do
  recordApplied sequence record
  apply sequence record
  pure (sequence + 1)

def applyBatchOf (apply : ℕ → LogRecord → ReaderProg C E Unit) (batchSize : ℕ) :
    ReaderProg C E AppliedBatch := do
  let start ← readPosition
  let page ← ext (.read start.cursor batchSize)
  match contractError start.cursor batchSize page with
  | some message => raise (.logContract message)
  | none =>
    if page.records = [] then
      pure ⟨start, []⟩
    else do
      let sequence ← foldEach page.records start.nextSequence (applyRecordOf apply)
      write fun db => { db with cursor := page.next, nextSequence := sequence }
      write id
      pure ⟨⟨page.next, sequence⟩, page.records⟩

def stepOf (apply : ℕ → LogRecord → ReaderProg C E Unit) (batchSize : ℕ) :
    ReaderProg C E AppliedBatch := do
  connect
  let r ← attempt do
    begin
    let batch ← applyBatchOf apply batchSize
    endBatch batch
    pure batch
  finish r

def readersOf (apply : ℕ → LogRecord → ReaderProg C E Unit) :
    Sys (ReaderDb C) LogReader ReaderKey LogCall (ReaderError E) where
  Req := { batchSize : ℕ // 0 < batchSize }
  Ans := AppliedBatch
  Event := Empty
  program batchSize := stepOf apply batchSize
  occur e := e.elim

def applyInOrder (projections : List (Projection C E)) (sequence : ℕ) (record : LogRecord) :
    ReaderProg C E Unit :=
  forEach projections (applyProjection sequence record)

end Kippu.Derived
