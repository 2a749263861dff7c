import Kippu.Conc.Prog
import Mathlib.Logic.Function.Basic
import Mathlib.Data.List.Nodup

/-!
# Processes over a store

The store runs transactions at READ COMMITTED: a statement sees what is
committed and its own transaction's writes, writes are applied when the
transaction commits, and locks are held until it ends. A process holds its
connections as a stack of sessions, each with the locks it took and the
transaction it has open.

`exec` is one step of the whole system: a request arrives, a process performs
its next operation with some outcome, a process stops, or something happens
outside.
-/

namespace Conc

structure Shared (Db Env : Type) where
  db : Db
  env : Env

/-- A connection a process holds: its locks, and the effect of its open transaction. -/
structure Session (Db Key : Type) where
  keys : List Key
  tx : Option (Db → Db)

/-- The sessions of one process, the innermost first. -/
abbrev Local (Db Key : Type) := List (Session Db Key)

/-- The outcome of an operation, as the store or the outside decides it: it succeeds,
it fails, a commit takes effect but its answer is lost, rows come in some order, a call
outside ends in some way. -/
inductive Outcome
  | ok
  | fail
  | lost
  | order (l : List ℕ)
  | reply (c : Choice)

variable {Db Env Key Err : Type} {Call : Type → Type}

def Local.keys (l : Local Db Key) : List Key := l.flatMap Session.keys

def Local.view (l : Local Db Key) (db : Db) : Db :=
  match l with
  | ⟨_, some u⟩ :: _ => u db
  | _ => db

def Local.take (k : Key) (l : Local Db Key) : Local Db Key :=
  match l with
  | [] => []
  | s :: l => ⟨k :: s.keys, s.tx⟩ :: l

theorem Local.keys_cons (s : Session Db Key) (l : Local Db Key) :
    Local.keys (s :: l) = s.keys ++ l.keys := rfl

theorem Local.keys_take (l : Local Db Key) (h : k' ∈ (l.take k).keys) : k' ∈ l.keys ∨ k' = k := by
  cases l with
  | nil => exact .inl h
  | cons s l =>
    simp only [Local.take, Local.keys_cons, List.cons_append, List.mem_cons] at h ⊢
    exact h.symm

def Local.endTx (l : Local Db Key) : Local Db Key :=
  match l with
  | [] => []
  | _ :: l => ⟨[], none⟩ :: l

theorem Local.keys_endTx (l : Local Db Key) (h : k ∈ l.endTx.keys) : k ∈ l.keys := by
  cases l with
  | nil => exact h
  | cons s l => exact List.mem_append_right _ h

variable [DecidableEq Key] [Broken Err] [Outside Env Err Call]

def Local.holds (k : Key) (l : Local Db Key) : Bool :=
  match l with
  | [] => false
  | s :: _ => s.keys.contains k

/-- What an operation does to the process and the data, when its outcome is possible
as far as the process alone can tell. -/
def Op.act (p : Pid) (l : Local Db Key) (d : Shared Db Env) (op : Op Db Key Call α)
    (o : Outcome) : Option (Local Db Key × Shared Db Env × Except Err α) :=
  match op with
  | .connect =>
      match o with
      | .ok => some (⟨[], none⟩ :: l, d, .ok ())
      | .fail => some (l, d, .error Broken.broken)
      | _ => none
  | .release =>
      match o with
      | .ok => some (l.tail, d, .ok ())
      | _ => none
  | .begin =>
      match o with
      | .ok =>
          match l with
          | ⟨ks, none⟩ :: l => some (⟨ks, some id⟩ :: l, d, .ok ())
          | _ => none
      | .fail => some (l, d, .error Broken.broken)
      | _ => none
  | .commit =>
      match o with
      | .ok => some (l.endTx, { d with db := l.view d.db }, .ok ())
      | .lost => some (l.endTx, { d with db := l.view d.db }, .error Broken.broken)
      | .fail => some (l.endTx, d, .error Broken.broken)
      | _ => none
  | .rollback =>
      match o with
      | .ok => some (l.endTx, d, .ok ())
      | .fail => some (l.endTx, d, .error Broken.broken)
      | _ => none
  | .lock k =>
      match o with
      | .ok =>
          if l.holds k then some (l, d, .ok ())
          else if l.keys.contains k then none
          else some (l.take k, d, .ok ())
      | .fail => some (l, d, .error Broken.broken)
      | _ => none
  | .scan ids =>
      match o with
      | .order ks =>
          if ks.Nodup ∧ ks.toFinset = ids (l.view d.db) then
            some (l, d, .ok (l.view d.db, ks))
          else none
      | .fail => some (l, d, .error Broken.broken)
      | _ => none
  | .write u =>
      match o with
      | .ok =>
          match l with
          | ⟨ks, some v⟩ :: l => some (⟨ks, some (u ∘ v)⟩ :: l, d, .ok ())
          | _ => none
      | .fail => some (l, d, .error Broken.broken)
      | _ => none
  | .ext call =>
      match o with
      | .reply c =>
          let answer : Env × Except Err α := Outside.run call p c d.env
          some (l, { d with env := answer.1 }, answer.2)
      | _ => none

structure World (Db Env Key : Type) extends Shared Db Env where
  sessions : Pid → Local Db Key
  /-- Connections of the pool that are free. -/
  free : ℕ
  /-- The first process id not used yet. -/
  next : Pid

def World.taken (w : World Db Env Key) (p : Pid) (k : Key) : Bool :=
  (List.range w.next).any fun q => q != p && (w.sessions q).keys.contains k

def Op.enabled (w : World Db Env Key) (p : Pid) (op : Op Db Key Call α) (o : Outcome) : Bool :=
  match op with
  | .connect =>
      match o with
      | .ok => 0 < w.free
      | _ => true
  | .lock k =>
      match o with
      | .ok => !w.taken p k
      | _ => true
  | _ => true

def World.after (w : World Db Env Key) (p : Pid) (l : Local Db Key) (d : Shared Db Env) :
    World Db Env Key where
  toShared := d
  sessions := Function.update w.sessions p l
  free := w.free + (w.sessions p).length - l.length
  next := w.next

def Op.run (p : Pid) (o : Outcome) (w : World Db Env Key) (op : Op Db Key Call α) :
    Option (World Db Env Key × Except Err α) :=
  if op.enabled w p o then
    (op.act p (w.sessions p) w.toShared o).map fun (l, d, r) => (w.after p l d, r)
  else none

/-- A system: the requests it serves, their programs, and what happens outside. -/
structure Sys (Db Env Key : Type) (Call : Type → Type) (Err : Type) where
  Req : Type
  Ans : Type
  Event : Type
  program : Req → Prog Db Key Call Err Ans
  occur : Event → Shared Db Env → Option (Shared Db Env)

variable (S : Sys Db Env Key Call Err)

/-- The state of a system. A process that stopped has no program. -/
structure Config where
  world : World Db Env Key
  procs : Pid → Option (Prog Db Key Call Err S.Ans)
  reqs : Pid → Option S.Req

inductive Label
  | start (r : S.Req)
  | step (p : Pid) (o : Outcome)
  | crash (p : Pid)
  | occur (e : S.Event)

variable {S}

def exec (c : Config S) : Label S → Option (Config S)
  | .start r => some
      { world := { c.world with next := c.world.next + 1 }
        procs := Function.update c.procs c.world.next (some (S.program r))
        reqs := Function.update c.reqs c.world.next (some r) }
  | .step p o =>
      match c.procs p with
      | some (.call op next) =>
          (op.run p o c.world).map fun (w, r) =>
            { c with world := w, procs := Function.update c.procs p (some (next r)) }
      | _ => none
  | .crash p => some
      { c with
        world := c.world.after p [] c.world.toShared
        procs := Function.update c.procs p none }
  | .occur e =>
      (S.occur e c.world.toShared).map fun d => { c with world := { c.world with toShared := d } }

def run (c : Config S) : List (Label S) → Option (Config S)
  | [] => some c
  | a :: ls => (exec c a).bind fun c' => run c' ls

structure Initial (ok : Shared Db Env → Prop) (c : Config S) : Prop where
  data : ok c.world.toShared
  sessions : ∀ p, c.world.sessions p = []
  procs : ∀ p, c.procs p = none
  reqs : ∀ p, c.reqs p = none

/-- The states reached from a state by steps that meet a condition. -/
inductive Steps (A : Config S → Label S → Prop) (c : Config S) : Config S → Prop
  | refl : Steps A c c
  | step : Steps A c c' → A c' a → exec c' a = some c'' → Steps A c c''

abbrev AnyStep : Config S → Label S → Prop := fun _ _ => True

theorem Steps.trans {A : Config S → Label S → Prop} (h : Steps A c c') (h' : Steps A c' c'') :
    Steps A c c'' := by
  induction h' with
  | refl => exact h
  | step _ ha he ih => exact .step ih ha he

theorem Steps.of_run {ls : List (Label S)} (h : run c ls = some c') : Steps AnyStep c c' := by
  induction ls generalizing c with
  | nil =>
    cases h
    exact .refl
  | cons a ls ih =>
    simp only [run, Option.bind_eq_some_iff] at h
    obtain ⟨c₁, he, hr⟩ := h
    exact (Steps.step .refl trivial he).trans (ih hr)

end Conc
