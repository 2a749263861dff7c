import Kippu.Derived.Consistent
import Kippu.Derived.ExactlyOnce

/-!
# Part-way through a record

The ledger-facts projection, statement by statement, as the transaction of a batch runs it: each
statement may fail, and the process may stop, between any two. What is committed is what the
projection makes of the records before the next sequence, and so agrees with itself.
-/

namespace Kippu.Derived

open Conc Conc.Prog

-- ---------------------------------------------------------------------------
-- The statements of a record
-- ---------------------------------------------------------------------------

/-- `tx.query`: how many rows it changed. -/
def query (statement : Statement) : ReaderProg Copy ProjectionError ℕ := do
  let answer ← read fun db => statement db.copy
  match answer with
  | .ok (rowCount, copy) => do
    write fun db => { db with copy := copy }
    pure rowCount
  | .error e => raise (.projection e)

/-- `exactlyOne`. -/
def oneRow (record : LogRecord) (statement : Statement) : ReaderProg Copy ProjectionError Unit := do
  let rowCount ← query statement
  if rowCount = 1 then
    pure ()
  else
    raise (.projection (.unprojectable record.cursor
      s!"expected to change one row, changed {rowCount}"))

def runRegistration (s : Services) (sequence : ℕ) (record : LogRecord) (account : AccountId)
    (registration : Registration) : ReaderProg Copy ProjectionError Unit :=
  match s.registrationAccount registration with
  | .error code =>
    raise (.projection (.unprojectable record.cursor s!"the registration does not decode: {code}"))
  | .ok named =>
    if named.1 ≠ account then
      raise (.projection (.unprojectable record.cursor "the registration names another account"))
    else do
      let _ ← query (insertCredential named ⟨registration, sequence⟩)
      pure ()

def runCommand (s : Services) (sequence : ℕ) (record : LogRecord) :
    Command → ReaderProg Copy ProjectionError Unit
  | .createEvent event _ capacity zones metadata =>
    match s.getEvent sequence event with
    | .error code => raise (.projection (.ledgerQuery code s!"getEvent({event})"))
    | .ok answer =>
      oneRow record
        (insertEvent event ⟨answer.owner, .active, capacity, 0, zones, metadata, sequence⟩)
  | .setEventStatus event status =>
    oneRow record
      (updateEvent event fun row => { row with status := status, sequence := sequence })
  | .setEventCapacity event capacity =>
    oneRow record
      (updateEvent event fun row => { row with maxCapacity := capacity, sequence := sequence })
  | .addZone event zone =>
    oneRow record
      (updateEvent event fun row => { row with zones := row.zones ++ [zone], sequence := sequence })
  | .removeZone event zone =>
    oneRow record
      (updateEvent event fun row =>
        { row with zones := row.zones.filter (·.id ≠ zone), sequence := sequence })
  | .issueTicket input => do
    oneRow record (insertTicket input.ticket (input.row sequence))
    oneRow record
      (updateEvent input.event fun row =>
        { row with issued := row.issued + 1, sequence := sequence })
  | .transferTicket event ticket receiver => do
    let previous ← read fun db => (db.copy.tickets ticket).filter (·.eventId = event)
    match previous with
    | none =>
      raise (.projection (.unprojectable record.cursor
        "the copy holds no such ticket in the event"))
    | some previous => do
      oneRow record
        (updateTicket event ticket fun row => { row with holder := receiver, sequence := sequence })
      oneRow record
        (insertTransfer sequence ⟨event, ticket, previous.holder, receiver, record.recordedAt⟩)
  | .removeRestriction event ticket restriction =>
    match restriction with
    | .other name =>
      raise (.projection (.unprojectable record.cursor s!"unknown restriction {name}"))
    | .cannotResale =>
      oneRow record
        (updateTicket event ticket fun row =>
          { row with cannotResale := false, sequence := sequence })
    | .cannotTransfer =>
      oneRow record
        (updateTicket event ticket fun row =>
          { row with cannotTransfer := false, sequence := sequence })
  | .registerCredential account registration =>
    runRegistration s sequence record account registration
  | .other kind =>
    raise (.projection (.unprojectable record.cursor s!"unknown command kind {kind.quote}"))

def runAttendance (sequence : ℕ) (record : LogRecord) (pass : AccessPass) :
    ReaderProg Copy ProjectionError Unit :=
  match record.event with
  | none =>
    raise (.projection (.unprojectable record.cursor "an access pass record names no event"))
  | some (event, _) => do
    oneRow record
      (updateTicket event pass.ticket fun row =>
        { row with attendances := row.attendances + 1, sequence := sequence })
    oneRow record (upsertAttendance pass.ticket event record.recordedAt sequence)
    match record.presentedAt with
    | none =>
      raise (.projection (.unprojectable record.cursor
        "an access pass record carries no presentedAt"))
    | some presentedAt =>
      oneRow record
        (insertPass (pass.ticket, pass.id)
          ⟨event, pass.holder, pass.notBefore, pass.notAfter, presentedAt, record.recordedAt,
            sequence⟩)

def runLedgerFacts (s : Services) (sequence : ℕ) (record : LogRecord) :
    ReaderProg Copy ProjectionError Unit :=
  match record.entry with
  | .command _ _ command => runCommand s sequence record command
  | .pass pass => runAttendance sequence record pass
  | .other =>
    raise (.projection (.unprojectable record.cursor "the entry is neither command nor pass"))

-- ---------------------------------------------------------------------------
-- What they leave
-- ---------------------------------------------------------------------------

section

variable {C E : Type} {log : LogReader} {projections : List (Projection C E)} {init : C}

theorem performs_pure (a : α) :
    Performs log projections init (pure a) (fun c a' c' => a' = a ∧ c' = c) := by
  intro p d₀ ks u d h
  exact Within.pure ⟨h, _, ⟨rfl, rfl⟩, rfl⟩

theorem performs_raise (e : ReaderError E) (R : C → α → C → Prop) :
    Performs log projections init (raise e) R := by
  intro p d₀ ks u d _
  exact Within.raise trivial

theorem performs_read (get : C → α) :
    Performs log projections init (read fun db => get db.copy)
      (fun c a c' => a = get c ∧ c' = c) := by
  intro p d₀ ks u d h
  refine Within.read fun d₁ hr₁ _ => ?_
  exact ⟨h.rely hr₁, _, ⟨by rw [h.same], rfl⟩, rfl⟩

theorem Performs.mono {m : ReaderProg C E α} {R S : C → α → C → Prop}
    (hm : Performs log projections init m R) (h : ∀ c a c', R c a c' → S c a c') :
    Performs log projections init m S := by
  intro p d₀ ks u d hl
  refine (hm hl).mono ?_
  rintro (e | a) ks₁ u₁ d₁
  · exact fun _ => trivial
  rintro ⟨h₁, c, hR, hu⟩
  exact ⟨h₁, c, h _ _ _ hR, hu⟩

theorem Performs.bind {m : ReaderProg C E α} {f : α → ReaderProg C E β} {R : C → α → C → Prop}
    {S : C → β → C → Prop} (hm : Performs log projections init m R)
    (hf : ∀ a, Performs log projections init (f a) fun c' b c'' => ∀ c, R c a c' → S c b c'') :
    Performs log projections init (m >>= f) S := by
  intro p d₀ ks u d h
  refine Within.bind ((hm h).mono ?_)
  rintro (e | a) ks₁ u₁ d₁
  · exact fun _ => trivial
  rintro ⟨h₁, c₁, hR, hu₁⟩
  refine (hf a h₁).mono ?_
  rintro (e | b) ks₂ u₂ d₂
  · exact fun _ => trivial
  rintro ⟨h₂, c₂, hS, hu₂⟩
  rw [hu₁] at hS hu₂
  exact ⟨h₂, c₂, hS _ hR, hu₂⟩

end

variable {s : Services} {log : LogReader} {projections : List (Projection Copy ProjectionError)}
  {init : Copy} {sequence : ℕ} {record : LogRecord}

theorem query_performs (statement : Statement) :
    Performs log projections init (query statement)
      (fun c rowCount c' => statement c = .ok (rowCount, c')) := by
  intro p d₀ ks u d h
  refine Within.bind (Within.read fun d₁ hr₁ _ => ?_)
  have h₁ := h.rely hr₁
  dsimp only
  rw [h.same]
  split
  · rename_i rowCount c hc
    refine Within.bind (Within.write fun d₂ hr₂ _ => ?_)
    exact Within.pure ⟨h₁.rely hr₂, c, hc, rfl⟩
  · exact Within.raise trivial

theorem oneRow_performs (statement : Statement) :
    Performs log projections init (oneRow record statement)
      (fun c _ c' => exactlyOne record statement c = .ok c') := by
  refine (query_performs statement).bind fun rowCount => ?_
  split
  · rename_i hone
    refine (performs_pure ()).mono fun c' _ c'' h c hc => ?_
    obtain ⟨-, rfl⟩ := h
    exact bind_eq_ok.mpr ⟨_, hc, if_pos hone⟩
  · exact performs_raise _ _

theorem runRegistration_performs (account : AccountId) (registration : Registration) :
    Performs log projections init (runRegistration s sequence record account registration)
      (fun c _ c' => applyRegistration s sequence record account registration c = .ok c') := by
  unfold runRegistration applyRegistration
  cases s.registrationAccount registration with
  | error code => exact performs_raise _ _
  | ok named =>
    dsimp only
    split
    · exact performs_raise _ _
    · refine (query_performs _).bind fun rowCount => (performs_pure ()).mono fun c' _ c'' h c hc => ?_
      obtain ⟨-, rfl⟩ := h
      exact bind_eq_ok.mpr ⟨_, hc, rfl⟩

theorem runCommand_performs (command : Command) :
    Performs log projections init (runCommand s sequence record command)
      (fun c _ c' => applyCommand s sequence record command c = .ok c') := by
  cases command with
  | createEvent event salt capacity zones metadata =>
    simp only [runCommand, applyCommand]
    cases s.getEvent sequence event with
    | error code => exact performs_raise _ _
    | ok answer => exact oneRow_performs _
  | setEventStatus | setEventCapacity | addZone | removeZone => exact oneRow_performs _
  | issueTicket input =>
    refine (oneRow_performs _).bind fun _ => (oneRow_performs _).mono fun c₁ _ c' h₂ c h₁ => ?_
    exact bind_eq_ok.mpr ⟨c₁, h₁, h₂⟩
  | transferTicket event ticket receiver =>
    have hticket : Performs log projections init _ _ :=
      performs_read fun c : Copy => (c.tickets ticket).filter (·.eventId = event)
    refine hticket.bind fun previous => ?_
    cases previous with
    | none => exact performs_raise _ _
    | some previous =>
      refine (oneRow_performs _).bind fun _ => (oneRow_performs _).mono
        fun c₁ _ c' h₂ c₀ h₁ c hread => ?_
      obtain ⟨hprevious, rfl⟩ := hread
      simp only [applyCommand, ← hprevious]
      exact bind_eq_ok.mpr ⟨c₁, h₁, h₂⟩
  | removeRestriction event ticket restriction =>
    cases restriction with
    | other name => exact performs_raise _ _
    | cannotResale | cannotTransfer => exact oneRow_performs _
  | registerCredential account registration => exact runRegistration_performs account registration
  | other kind => exact performs_raise _ _

theorem runAttendance_performs (pass : AccessPass) :
    Performs log projections init (runAttendance sequence record pass)
      (fun c _ c' => applyAttendance sequence record pass c = .ok c') := by
  unfold runAttendance applyAttendance
  cases record.event with
  | none => exact performs_raise _ _
  | some event =>
    refine (oneRow_performs _).bind fun _ => (oneRow_performs _).bind fun _ => ?_
    cases record.presentedAt with
    | none => exact performs_raise _ _
    | some presentedAt =>
      refine (oneRow_performs _).mono fun c₂ _ c' h₃ c₁ h₂ c h₁ => ?_
      exact bind_eq_ok.mpr ⟨c₁, h₁, bind_eq_ok.mpr ⟨c₂, h₂, h₃⟩⟩

theorem runLedgerFacts_applies (log : LogReader) (init : Copy) :
    AppliesAll log [ledgerFacts s] init (runLedgerFacts s) := by
  intro sequence record
  have hrun : Performs log [ledgerFacts s] init (runLedgerFacts s sequence record)
      (fun c _ c' => ledgerFacts s sequence record c = .ok c') := by
    unfold runLedgerFacts ledgerFacts
    cases record.entry with
    | command operationId signer command => exact runCommand_performs command
    | pass pass => exact runAttendance_performs pass
    | other => exact performs_raise _ _
  refine hrun.mono fun c _ c' h => ?_
  rw [applyAll, h]
  rfl

-- ---------------------------------------------------------------------------
-- Every run
-- ---------------------------------------------------------------------------

/-- In every state that any readers of one store reach, wherever one is in a record and whatever
failed or stopped: the copy agrees with itself, and only a batch committed whole changes it. -/
theorem copy_is_consistent (log : LogReader) (s : Services)
    (c c' c'' : Config (readersOf (runLedgerFacts s)))
    (hinit : Initial (fun d => d = ⟨.migrated .empty, log⟩) c) (hsteps : Steps AnyStep c c')
    (hsteps' : Steps AnyStep c' c'') :
    Consistent (log.records.take c'.world.db.nextSequence) c'.world.db.copy ∧
      (c''.world.db.nextSequence = c'.world.db.nextSequence →
        c''.world.db.copy = c'.world.db.copy) := by
  have hread := readTo_reached (runLedgerFacts_applies log .empty) hinit hsteps
  have hread' := readTo_reached (runLedgerFacts_applies log .empty) hinit (hsteps.trans hsteps')
  constructor
  · have hfold : Copy.project s ([] : List LogRecord).length .empty
        (log.records.take c'.world.db.nextSequence) = .ok c'.world.db.copy := hread.copied.fold
    simpa using Consistent.empty.project .empty hfold
  · intro hsame
    have hfold := hread'.copied.fold
    rw [hsame, hread.copied.fold] at hfold
    exact (Except.ok.inj hfold).symm

def transferredTicket : LogReader where
  records :=
    [⟨1, 10, some (1, 0), none, .command 1 7 (.createEvent 1 2 none [⟨3, .unseated⟩] none)⟩,
     ⟨2, 20, some (1, 1), none, .command 2 7 (.issueTicket
        ⟨5, 1, 3, .unseated 8, 4, .granted, .unlimited none, ⟨false, false⟩, 9⟩)⟩,
     ⟨3, 30, some (1, 2), none, .command 3 9 (.transferTicket 1 5 8)⟩]
  continuation c := match c with
    | 0 =>
      [⟨1, 10, some (1, 0), none, .command 1 7 (.createEvent 1 2 none [⟨3, .unseated⟩] none)⟩,
       ⟨2, 20, some (1, 1), none, .command 2 7 (.issueTicket
          ⟨5, 1, 3, .unseated 8, 4, .granted, .unlimited none, ⟨false, false⟩, 9⟩)⟩,
       ⟨3, 30, some (1, 2), none, .command 3 9 (.transferTicket 1 5 8)⟩]
    | 1 =>
      [⟨2, 20, some (1, 1), none, .command 2 7 (.issueTicket
          ⟨5, 1, 3, .unseated 8, 4, .granted, .unlimited none, ⟨false, false⟩, 9⟩)⟩,
       ⟨3, 30, some (1, 2), none, .command 3 9 (.transferTicket 1 5 8)⟩]
    | 2 => [⟨3, 30, some (1, 2), none, .command 3 9 (.transferTicket 1 5 8)⟩]
    | _ => []
  start := rfl
  after n record h := by
    match n with
    | 0 => cases h; rfl
    | 1 => cases h; rfl
    | 2 => cases h; rfl
    | _ + 3 => simp at h

def ownerSeven : Services :=
  ⟨fun _ _ => .ok ⟨7, .active, none, 0, []⟩, fun _ => .error "ERR-InvalidRegistration"⟩

def migratedFacts : Config (readersOf (runLedgerFacts ownerSeven)) where
  world := ⟨⟨.migrated .empty, transferredTicket⟩, fun _ => [], 2, 0⟩
  procs _ := none
  reqs _ := none

def twoApplied : List (Label (readersOf (runLedgerFacts ownerSeven))) :=
  [.start ⟨2, Nat.two_pos⟩, .step 0 .ok, .step 0 .ok, .step 0 .ok, .step 0 (.order []),
   .step 0 (.reply ⟨true, true, 2 * 4 + 2⟩), .step 0 (.order []), .step 0 .ok,
   .step 0 (.order []), .step 0 .ok, .step 0 (.order []), .step 0 .ok, .step 0 (.order []),
   .step 0 .ok, .step 0 (.order []), .step 0 .ok, .step 0 .ok, .step 0 .ok, .step 0 .ok,
   .step 0 .ok]

/-- A reader stops in the transfer, once the ticket has its new holder, and before the transfer's
row. -/
def stopsInTransfer : List (Label (readersOf (runLedgerFacts ownerSeven))) :=
  [.start ⟨2, Nat.two_pos⟩, .step 1 .ok, .step 1 .ok, .step 1 .ok, .step 1 (.order []),
   .step 1 (.reply ⟨true, true, 3 * 2 + 1⟩), .step 1 (.order []), .step 1 .ok,
   .step 1 (.order []), .step 1 (.order []), .step 1 .ok, .crash 1]

theorem run_twoApplied : (run migratedFacts twoApplied).isSome := by decide

def issuedOnce : Config (readersOf (runLedgerFacts ownerSeven)) :=
  (run migratedFacts twoApplied).get run_twoApplied

theorem run_stopsInTransfer : (run issuedOnce stopsInTransfer).isSome := by decide

def stoppedInTransfer : Config (readersOf (runLedgerFacts ownerSeven)) :=
  (run issuedOnce stopsInTransfer).get run_stopsInTransfer

theorem copy_is_consistent_part_way :
    stoppedInTransfer.world.db.copy = issuedOnce.world.db.copy ∧
      Consistent (transferredTicket.records.take 2) issuedOnce.world.db.copy := by
  have htwo : issuedOnce.world.db.nextSequence = 2 := by decide
  have hsame : stoppedInTransfer.world.db.nextSequence = 2 := by decide
  obtain ⟨hconsistent, hcopy⟩ := copy_is_consistent transferredTicket ownerSeven migratedFacts
    issuedOnce stoppedInTransfer ⟨rfl, fun _ => rfl, fun _ => rfl, fun _ => rfl⟩
    (Steps.of_run (Option.some_get run_twoApplied).symm)
    (Steps.of_run (Option.some_get run_stopsInTransfer).symm)
  exact ⟨hcopy (hsame.trans htwo.symm), htwo ▸ hconsistent⟩

end Kippu.Derived
