import Mathlib.Data.Finset.Card

/-!
# Programs over a shared store

A request handler is a program over atomic operations: it takes a connection of
a bounded pool, runs statements in transactions, takes locks that last to the
end of the transaction, and calls services outside the store. Between any two
operations another process may run. Every operation may fail, and then the
program continues with the error.
-/

namespace Conc

/-- A process: one request, from its start. -/
abbrev Pid := ℕ

/-- How a call outside the store ended: whether it took effect, whether its answer
came back, and a number the outside chose (a time, an identifier). -/
structure Choice where
  reached : Bool
  answered : Bool
  value : ℕ

class Broken (Err : Type) where
  broken : Err

/-- The atomic operations. `scan` answers the keys a statement selects in any
order, with the snapshot they were selected in; `write` is an effect of the open
transaction, seen by others once it commits; `ext` is a call outside the store. -/
inductive Op (Db Key : Type) (Call : Type → Type) : Type → Type 1
  | connect : Op Db Key Call Unit
  | release : Op Db Key Call Unit
  | begin : Op Db Key Call Unit
  | commit : Op Db Key Call Unit
  | rollback : Op Db Key Call Unit
  | lock (k : Key) : Op Db Key Call Unit
  | scan (ids : Db → Finset ℕ) : Op Db Key Call (Db × List ℕ)
  | write (u : Db → Db) : Op Db Key Call Unit
  | ext {β : Type} (call : Call β) : Op Db Key Call β

inductive Prog (Db Key : Type) (Call : Type → Type) (Err α : Type) : Type 1
  | done (r : Except Err α)
  | call {β : Type} (op : Op Db Key Call β) (next : Except Err β → Prog Db Key Call Err α)

class Outside (Env Err : Type) (Call : Type → Type) where
  run {β : Type} : Call β → Pid → Choice → Env → Env × Except Err β

namespace Prog

variable {Db Key Err : Type} {Call : Type → Type}

/-- Runs `f` on the result of `m`, error or not. -/
def andThen (m : Prog Db Key Call Err α) (f : Except Err α → Prog Db Key Call Err β) :
    Prog Db Key Call Err β :=
  match m with
  | done r => f r
  | call op next => call op fun r => (next r).andThen f

def onOk (f : α → Prog Db Key Call Err β) : Except Err α → Prog Db Key Call Err β
  | .ok a => f a
  | .error e => done (.error e)

instance : Monad (Prog Db Key Call Err) where
  pure a := done (.ok a)
  bind m f := m.andThen (onOk f)

def perform (op : Op Db Key Call α) : Prog Db Key Call Err α := call op done

def raise (e : Err) : Prog Db Key Call Err α := done (.error e)

def attempt (m : Prog Db Key Call Err α) : Prog Db Key Call Err (Except Err α) :=
  m.andThen fun r => done (.ok r)

def connect : Prog Db Key Call Err Unit := perform .connect
def release : Prog Db Key Call Err Unit := perform .release
def begin : Prog Db Key Call Err Unit := perform .begin
def commit : Prog Db Key Call Err Unit := perform .commit
def rollback : Prog Db Key Call Err Unit := perform .rollback
def lock (k : Key) : Prog Db Key Call Err Unit := perform (.lock k)
def scan (ids : Db → Finset ℕ) : Prog Db Key Call Err (Db × List ℕ) := perform (.scan ids)
def write (u : Db → Db) : Prog Db Key Call Err Unit := perform (.write u)
def ext (c : Call α) : Prog Db Key Call Err α := perform (.ext c)

def read (f : Db → α) : Prog Db Key Call Err α := do
  let (db, _) ← scan fun _ => ∅
  pure (f db)

def forEach (xs : List α) (f : α → Prog Db Key Call Err Unit) : Prog Db Key Call Err Unit :=
  match xs with
  | [] => pure ()
  | x :: xs => do
      f x
      forEach xs f

def foldEach (xs : List α) (b : β) (f : β → α → Prog Db Key Call Err β) : Prog Db Key Call Err β :=
  match xs with
  | [] => pure b
  | x :: xs => do foldEach xs (← f b x) f

/-- Rolls the open transaction back after an error, and gives the connection back. A
`ROLLBACK` that fails replaces the error. -/
def abandon (e : Err) : Prog Db Key Call Err α := do
  let undone ← attempt rollback
  release
  match undone with
  | .ok () => raise e
  | .error e' => raise e'

def rollbackIf (undo : Bool) : Prog Db Key Call Err (Except Err Unit) :=
  if undo then attempt rollback else pure (.ok ())

/-- Commits the open transaction and gives the connection back; answers how `COMMIT`
went. When it failed, `ROLLBACK` is sent if `undo` says so. -/
def conclude (undo : Bool) : Prog Db Key Call Err (Except Err Unit) := do
  let committed ← attempt commit
  match committed with
  | .ok () => do
      release
      pure (.ok ())
  | .error e => do
      let _ ← rollbackIf undo
      release
      pure (.error e)

/-- Runs a program on a connection of its own, inside a transaction that commits when
the program ends and is rolled back when it fails. How `COMMIT` went is part of the
answer. -/
def transactionWith (undo : α → Bool) (m : Prog Db Key Call Err α) :
    Prog Db Key Call Err (α × Except Err Unit) := do
  connect
  let r ← attempt do
    begin
    m
  match r with
  | .ok a => do
      let committed ← conclude (undo a)
      pure (a, committed)
  | .error e => abandon e

/-- Runs a program in a transaction of its own; a `COMMIT` that fails is an error. -/
def transaction (m : Prog Db Key Call Err α) : Prog Db Key Call Err α := do
  let (a, committed) ← transactionWith (fun _ => true) m
  match committed with
  | .ok () => pure a
  | .error e => raise e

end Prog

end Conc
