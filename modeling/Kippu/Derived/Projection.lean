import Kippu.Derived.Ledger

/-!
# Projections

A projection applies one record of the log, with its place in it, to what it
keeps. A log is applied record by record, each by every projection in order.
-/

namespace Kippu.Derived

variable {C E : Type}

/-- Keeps part of the derived copy; an error stops the reader at the record. -/
abbrev Projection (C E : Type) := ℕ → LogRecord → C → Except E C

def applyAll (n : ℕ) (record : LogRecord) (c : C) : List (Projection C E) → Except E C
  | [] => .ok c
  | projection :: rest => do
    let c' ← projection n record c
    applyAll n record c' rest

/-- The projections folded over a log whose first record has sequence `n`. -/
def project (projections : List (Projection C E)) (n : ℕ) (c : C) : List LogRecord → Except E C
  | [] => .ok c
  | record :: log => do
    let c' ← applyAll n record c projections
    project projections (n + 1) c' log

theorem project_append {projections : List (Projection C E)} :
    project projections n c (past ++ log) =
      (project projections n c past).bind fun c' =>
        project projections (n + past.length) c' log := by
  induction past generalizing n c with
  | nil => rfl
  | cons record past ih =>
    simp only [List.cons_append, project, List.length_cons]
    cases applyAll n record c projections with
    | error e => rfl
    | ok c' =>
      rw [show n + (past.length + 1) = n + 1 + past.length by omega]
      exact ih

theorem project_singleton {projections : List (Projection C E)} :
    project projections n c [record] = applyAll n record c projections := by
  simp only [project]
  cases applyAll n record c projections <;> rfl

theorem project_error {projections : List (Projection C E)}
    (h : project projections n c past = .error e) :
    project projections n c (past ++ log) = .error e := by
  rw [project_append, h]
  rfl

def Command.kind : Command → String
  | .createEvent .. => "createEvent"
  | .setEventStatus .. => "setEventStatus"
  | .setEventCapacity .. => "setEventCapacity"
  | .addZone .. => "addZone"
  | .removeZone .. => "removeZone"
  | .issueTicket _ => "issueTicket"
  | .transferTicket .. => "transferTicket"
  | .removeRestriction .. => "removeRestriction"
  | .registerCredential .. => "registerCredential"
  | .other kind => kind

/-- The kind of a record's entry: a command's kind, or `accessPass`. -/
def entryKind (record : LogRecord) : String :=
  match record.entry with
  | .command _ _ command => command.kind
  | _ => "accessPass"

end Kippu.Derived
