import Kippu.Conc.Keyset
import Kippu.Derived.Frames
import Kippu.Derived.Reader
import Kippu.Hex
import Mathlib.Data.Finset.Sort
import Mathlib.Data.Prod.Lex

/-!
# Events on sale

The index of events on sale, a page at a time, most recently created first: what
the copy holds as active and Kippu has a purchased class of, below the position a
page token names. A page and the copy's head are one statement; the reader commits
and classes change between pages.
-/

namespace Kippu.Derived

open Conc

/-- Where an event is in the index: the sequence of its creation, then its id. An id is 64
hexadecimal digits, so that ids compare as text as their numbers do. -/
abbrev EventPosition := ℕ ×ₗ EventId

def EventPosition.created (position : EventPosition) : ℕ := (ofLex position).1
def EventPosition.id (position : EventPosition) : EventId := (ofLex position).2

inductive ReadError
  | range (message : String)
  | refused (message : String)

-- ---------------------------------------------------------------------------
-- Page tokens
-- ---------------------------------------------------------------------------

def hexDigits : ℕ → ℕ → List Char
  | 0, _ => []
  | k + 1, n => hexDigits k (n / 16) ++ [hexDigit (n % 16)]

def hexNumber (digits : List Char) : ℕ := digits.foldl (fun n c => 16 * n + hexValue c) 0

/-- `<created>.<EventId>`. -/
def pageOf (position : EventPosition) : List Char :=
  Nat.toDigits 10 position.created ++ '.' :: hexDigits 64 position.id

/-- `/^(0|[1-9][0-9]{0,15})\.([0-9a-f]{64})$/`: the digits before the point and those after it. -/
def PAGE (page : List Char) : Option (List Char × List Char) :=
  let created := page.takeWhile Char.isDigit
  match page.dropWhile Char.isDigit with
  | '.' :: id =>
    if created ≠ [] ∧ (created = ['0'] ∨ created.head? ≠ some '0' ∧ created.length ≤ 16) ∧
        id.length = 64 ∧ id.all isHexDigit then
      some (created, id)
    else none
  | _ => none

def MAX_SAFE_INTEGER : ℕ := 2 ^ 53 - 1

/-- A number beyond the safe integers stays beyond them when it is rounded. -/
def positionOf (page : List Char) : Except ReadError EventPosition :=
  match PAGE page with
  | some (created, id) =>
    let created := Nat.ofDigitChars 10 created 0
    if created ≤ MAX_SAFE_INTEGER then .ok (toLex (created, hexNumber id))
    else .error (.refused "the page token is not one this index issued")
  | none => .error (.refused "the page token is not one this index issued")

-- ---------------------------------------------------------------------------
-- The query
-- ---------------------------------------------------------------------------

structure SaleStore where
  reader : ReaderDb Copy
  /-- `ticket_classes`. -/
  classes : Table TicketClass

/-- `EXISTS (… k.event = e.id AND k.provenance = 'Purchased')`. -/
def SaleStore.sells (store : SaleStore) (event : EventId) : Bool :=
  store.classes.any fun k => k.event = event && k.provenance = .purchased

def SaleStore.created (store : SaleStore) (sequence : ℕ) : Option (EventPosition × EventRow) :=
  (store.reader.log.get sequence).bind fun record =>
    if record.eventSequence = some 0 then
      record.eventId.bind fun id =>
        (store.reader.copy.events id).map fun event => (toLex (sequence, id), event)
    else none

/-- The rows of the query, most recently created first: a sequence is of one record, and of one
event, so that the log's order is the whole order. -/
def SaleStore.rows (store : SaleStore) (after : Option EventPosition) :
    List (EventPosition × EventRow) :=
  ((store.reader.log.ids.sort (· ≥ ·)).filterMap store.created).filter fun row =>
    row.2.status = .active && store.sells row.1.id && after.all (row.1 < ·)

def int (n : ℕ) : Except ReadError ℕ :=
  if n ≤ MAX_SAFE_INTEGER then .ok n else .error (.range s!"{n} is not a safe integer")

structure ProjectedEvent where
  id : EventId
  value : Event
  metadataLocator : Option Locator
  sequence : ℕ

structure ListedEvent where
  event : ProjectedEvent
  position : EventPosition

def eventOf (id : EventId) (row : EventRow) : Except ReadError ProjectedEvent := do
  let maxCapacity ← row.maxCapacity.mapM int
  let issued ← int row.issued
  let sequence ← int row.sequence
  return ⟨id, ⟨row.owner, row.status, maxCapacity, issued, row.zones⟩, row.metadataLocator,
    sequence⟩

def listedEvent (row : EventPosition × EventRow) : Except ReadError ListedEvent := do
  let event ← eventOf row.1.id row.2
  let created ← int row.1.created
  return ⟨event, toLex (created, row.1.id)⟩

/-- `queries.eventsOnSale`. -/
def SaleStore.eventsOnSale (store : SaleStore) (limit : ℕ) (after : Option EventPosition) :
    Except ReadError (List ListedEvent) :=
  ((store.rows after).take limit).mapM listedEvent

structure EventsOnSalePage where
  events : List ListedEvent
  nextPage : Option (List Char)

/-- The index's page after a token, or its first. One event more than asked for is read, to know
whether another page follows. -/
def eventsOnSale (store : SaleStore) (limit : ℕ) (page : Option (List Char)) :
    Except ReadError EventsOnSalePage := do
  let after ← page.mapM positionOf
  let result ← store.eventsOnSale (limit + 1) after
  let shown := result.take limit
  return ⟨shown,
    if limit < result.length then shown.getLast?.map fun last => pageOf last.position else none⟩

-- ---------------------------------------------------------------------------
-- The log, and readers of the index
-- ---------------------------------------------------------------------------

/-- How the ledger numbers an event's records: from its creation on, each by its own number. -/
structure EventNumbers (records : List LogRecord) : Prop where
  creation : ∀ record ∈ records, record.creates = some event → record.event = some (event, 0)
  once : ∀ {i j : ℕ} {r r' : LogRecord}, records[i]? = some r → records[j]? = some r' →
    r.event = some (event, number) → r'.event = some (event, number) → i = j
  /-- An id is 32 bytes. -/
  bytes : ∀ record ∈ records, record.event = some (event, number) → event < 16 ^ 64

/-- A reader who follows `nextPage`: `n` pages, each answered from the store as it then is. -/
structure Walks (limit : ℕ) (store : ℕ → SaleStore) (page : ℕ → EventsOnSalePage) (n : ℕ) :
    Prop where
  first : 0 < n → eventsOnSale (store 0) limit none = .ok (page 0)
  next : ∀ i, i + 1 < n → ∃ token, (page i).nextPage = some token ∧
    eventsOnSale (store (i + 1)) limit (some token) = .ok (page (i + 1))

def SaleStore.OnSale (store : SaleStore) (event : EventId) : Prop :=
  (∃ row, store.reader.copy.events event = some row ∧ row.status = .active) ∧
    store.sells event = true

end Kippu.Derived
