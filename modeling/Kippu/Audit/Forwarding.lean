import Kippu.Audit.Signing

/-!
# What a relay forwards

`relay` reads the states of the submission it got from the write, and then its
result, and calls its own submission in turn. The write may have its row recorded
at any time before it ends; how it ended is added to that row before the
submission settles, and the audit log may do anything with it.
-/

namespace Kippu.Audit.Forwarding

/-- What a write's submission settled with, or the ledger refused it with, or it threw. -/
inductive Verdict (ρ ε ξ : Type)
  | settled (receipt : ρ)
  | rejected (error : ε)
  | failed (reason : ξ)

inductive Awaited (ρ ε ξ : Type)
  | recorded (operationId : OperationId) (rest : Awaited ρ ε ξ)
  | outcome (outcome : Except ε ρ)
  | throws (reason : ξ)

inductive Source (ρ ε ξ : Type)
  /-- The audited signer recorded a row for the write, between two states. -/
  | recorded (operationId : OperationId) (rest : Source ρ ε ξ)
  | submitted (operationId : OperationId) (rest : Source ρ ε ξ)
  | settled (receipt : ρ)
  | rejected (error : ε)
  | throws (reason : ξ)
  /-- The states end without a terminal one. -/
  | ended (rest : Awaited ρ ε ξ)

variable {ρ ε ξ α σ : Type}

inductive Act (ρ ε ξ α : Type)
  | submitted (operationId : OperationId)
  | completing (operationId : OperationId) (outcome : AuditOutcome)
  | auditFailure (error : α)
  | ends (verdict : Verdict ρ ε ξ)

structure Sdk (ρ ε : Type) where
  cursor : ρ → String
  code : ε → String

/-- The audit log as the relay sees it: any answer, any effect. -/
abbrev Completing (σ α : Type) := σ → OperationId → AuditOutcome → Except α Unit × σ

structure Relaying (ρ ε ξ α σ : Type) where
  recorded : Option OperationId
  submitted : Bool
  log : σ
  acts : List (Act ρ ε ξ α)

def Relaying.call (r : Relaying ρ ε ξ α σ) (act : Act ρ ε ξ α) : Relaying ρ ε ξ α σ :=
  { r with acts := r.acts ++ [act] }

/-- Adds the outcome to the row, when there is one; a failure is only told. -/
def Relaying.complete (audit : Completing σ α) (r : Relaying ρ ε ξ α σ) (outcome : AuditOutcome) :
    Relaying ρ ε ξ α σ :=
  match r.recorded with
  | none => r
  | some operationId =>
    let answer := audit r.log operationId outcome
    let attempted := { r with log := answer.2 }.call (.completing operationId outcome)
    match answer.1 with
    | .ok () => attempted
    | .error error => attempted.call (.auditFailure error)

variable (sdk : Sdk ρ ε) (audit : Completing σ α)

def Relaying.settle (r : Relaying ρ ε ξ α σ) (receipt : ρ) : Relaying ρ ε ξ α σ :=
  (r.complete audit (.settled (sdk.cursor receipt))).call (.ends (.settled receipt))

def Relaying.reject (r : Relaying ρ ε ξ α σ) (error : ε) : Relaying ρ ε ξ α σ :=
  (r.complete audit (.rejected (sdk.code error))).call (.ends (.rejected error))

def Relaying.fail (r : Relaying ρ ε ξ α σ) (reason : ξ) : Relaying ρ ε ξ α σ :=
  (r.complete audit .failed).call (.ends (.failed reason))

def Relaying.submit (r : Relaying ρ ε ξ α σ) (operationId : OperationId) : Relaying ρ ε ξ α σ :=
  { (if r.submitted then r else r.call (.submitted operationId)) with submitted := true }

def Relaying.await : Awaited ρ ε ξ → Relaying ρ ε ξ α σ → Relaying ρ ε ξ α σ
  | .recorded operationId rest, r => Relaying.await rest { r with recorded := some operationId }
  | .outcome (.ok receipt), r => r.settle sdk audit receipt
  | .outcome (.error error), r => r.reject sdk audit error
  | .throws reason, r => r.fail audit reason

def Relaying.pump : Source ρ ε ξ → Relaying ρ ε ξ α σ → Relaying ρ ε ξ α σ
  | .recorded operationId rest, r => Relaying.pump rest { r with recorded := some operationId }
  | .submitted operationId rest, r => Relaying.pump rest (r.submit operationId)
  | .settled receipt, r => r.settle sdk audit receipt
  | .rejected error, r => r.reject sdk audit error
  | .throws reason, r => r.fail audit reason
  | .ended rest, r => r.await sdk audit rest

/-- `relay`, until its submission ends. -/
def relay (log : σ) (source : Source ρ ε ξ) : Relaying ρ ε ξ α σ :=
  Relaying.pump sdk audit source ⟨none, false, log, []⟩

-- ---------------------------------------------------------------------------
-- What the source said
-- ---------------------------------------------------------------------------

def Awaited.verdict : Awaited ρ ε ξ → Verdict ρ ε ξ
  | .recorded _ rest => rest.verdict
  | .outcome (.ok receipt) => .settled receipt
  | .outcome (.error error) => .rejected error
  | .throws reason => .failed reason

def Source.verdict : Source ρ ε ξ → Verdict ρ ε ξ
  | .recorded _ rest => rest.verdict
  | .submitted _ rest => rest.verdict
  | .settled receipt => .settled receipt
  | .rejected error => .rejected error
  | .throws reason => .failed reason
  | .ended rest => rest.verdict

def Awaited.recordings : Awaited ρ ε ξ → List OperationId
  | .recorded operationId rest => operationId :: rest.recordings
  | _ => []

def Source.recordings : Source ρ ε ξ → List OperationId
  | .recorded operationId rest => operationId :: rest.recordings
  | .submitted _ rest => rest.recordings
  | .ended rest => rest.recordings
  | _ => []

def Source.submissions : Source ρ ε ξ → List OperationId
  | .recorded _ rest => rest.submissions
  | .submitted operationId rest => operationId :: rest.submissions
  | _ => []

def Verdict.outcome : Verdict ρ ε ξ → AuditOutcome
  | .settled receipt => .settled (sdk.cursor receipt)
  | .rejected error => .rejected (sdk.code error)
  | .failed _ => .failed

def Act.submitted? : Act ρ ε ξ α → Option OperationId
  | .submitted operationId => some operationId
  | _ => none

def Act.completing? : Act ρ ε ξ α → Option (OperationId × AuditOutcome)
  | .completing operationId outcome => some (operationId, outcome)
  | _ => none

def Act.verdict? : Act ρ ε ξ α → Option (Verdict ρ ε ξ)
  | .ends verdict => some verdict
  | _ => none

/-- What a relay's calls are for a source, whatever the audit log answered. -/
structure Forwards (source : Source ρ ε ξ) (acts : List (Act ρ ε ξ α)) : Prop where
  /-- The last call is the source's verdict. -/
  last : acts.getLast? = some (.ends source.verdict)
  verdicts : acts.filterMap Act.verdict? = [source.verdict]
  submissions : acts.filterMap Act.submitted? = source.submissions.head?.toList
  /-- The row recorded last is the one `recorded` holds. -/
  completions : acts.filterMap Act.completing? =
    source.recordings.getLast?.toList.map fun operationId =>
      (operationId, source.verdict.outcome sdk)

-- ---------------------------------------------------------------------------
-- The calls of a run
-- ---------------------------------------------------------------------------

/-- The calls that end a relay: the completion if a row was recorded, what was told of its
failure, and the verdict. -/
def closing (recorded : Option OperationId) (told : List α) (verdict : Verdict ρ ε ξ) :
    List (Act ρ ε ξ α) :=
  recorded.toList.map (fun operationId => .completing operationId (verdict.outcome sdk)) ++
    told.map .auditFailure ++ [.ends verdict]

theorem complete_acts (r : Relaying ρ ε ξ α σ) (outcome : AuditOutcome) :
    ∃ told : List α, (r.complete audit outcome).acts =
      r.acts ++ r.recorded.toList.map (fun operationId => .completing operationId outcome) ++
        told.map .auditFailure := by
  unfold Relaying.complete
  cases hrecorded : r.recorded with
  | none => exact ⟨[], by simp⟩
  | some operationId =>
    cases hanswer : (audit r.log operationId outcome).1 with
    | ok => exact ⟨[], by simp [hanswer, Relaying.call]⟩
    | error error => exact ⟨[error], by simp [hanswer, Relaying.call]⟩

theorem settle_acts (r : Relaying ρ ε ξ α σ) (receipt : ρ) :
    ∃ told, (r.settle sdk audit receipt).acts =
      r.acts ++ closing sdk r.recorded told (.settled receipt) := by
  obtain ⟨told, h⟩ := complete_acts audit r (.settled (sdk.cursor receipt))
  exact ⟨told, by simp [Relaying.settle, Relaying.call, closing, Verdict.outcome, h]⟩

theorem reject_acts (r : Relaying ρ ε ξ α σ) (error : ε) :
    ∃ told, (r.reject sdk audit error).acts =
      r.acts ++ closing sdk r.recorded told (.rejected error) := by
  obtain ⟨told, h⟩ := complete_acts audit r (.rejected (sdk.code error))
  exact ⟨told, by simp [Relaying.reject, Relaying.call, closing, Verdict.outcome, h]⟩

theorem fail_acts (r : Relaying ρ ε ξ α σ) (reason : ξ) :
    ∃ told, (r.fail audit reason).acts =
      r.acts ++ closing sdk r.recorded told (.failed reason) := by
  obtain ⟨told, h⟩ := complete_acts audit r .failed
  exact ⟨told, by simp [Relaying.fail, Relaying.call, closing, Verdict.outcome, h]⟩

theorem last_recorded (operationId : OperationId) (rest : List OperationId)
    (before : Option OperationId) :
    (operationId :: rest).getLast?.or before = rest.getLast?.or (some operationId) := by
  rw [List.getLast?_cons]
  cases rest.getLast? <;> rfl

theorem await_acts (rest : Awaited ρ ε ξ) (r : Relaying ρ ε ξ α σ) :
    ∃ told, (r.await sdk audit rest).acts =
      r.acts ++ closing sdk (rest.recordings.getLast?.or r.recorded) told rest.verdict := by
  induction rest generalizing r with
  | recorded operationId rest ih =>
    obtain ⟨told, h⟩ := ih { r with recorded := some operationId }
    refine ⟨told, ?_⟩
    rw [Awaited.recordings, last_recorded]
    exact h
  | outcome outcome =>
    cases outcome with
    | ok receipt => exact settle_acts sdk audit r receipt
    | error error => exact reject_acts sdk audit r error
  | throws reason => exact fail_acts sdk audit r reason

/-- What `submitted` states add: the first, unless one was reported before. -/
def firstSubmission (submitted : Bool) (source : Source ρ ε ξ) : List (Act ρ ε ξ α) :=
  if submitted then [] else source.submissions.head?.toList.map .submitted

theorem firstSubmission_of_none {source : Source ρ ε ξ} (h : source.submissions = [])
    (r : Relaying ρ ε ξ α σ) : r.acts ++ firstSubmission r.submitted source = r.acts := by
  simp [firstSubmission, h]

theorem pump_acts (source : Source ρ ε ξ) (r : Relaying ρ ε ξ α σ) :
    ∃ told, (r.pump sdk audit source).acts =
      r.acts ++ firstSubmission r.submitted source ++
        closing sdk (source.recordings.getLast?.or r.recorded) told source.verdict := by
  induction source generalizing r with
  | recorded operationId rest ih =>
    obtain ⟨told, h⟩ := ih { r with recorded := some operationId }
    refine ⟨told, ?_⟩
    rw [Source.recordings, last_recorded]
    exact h
  | submitted operationId rest ih =>
    obtain ⟨told, h⟩ := ih (r.submit operationId)
    refine ⟨told, h.trans ?_⟩
    cases hsubmitted : r.submitted <;>
      simp [Relaying.submit, Relaying.call, hsubmitted, firstSubmission, Source.submissions,
        Source.recordings, Source.verdict]
  | settled receipt =>
    rw [firstSubmission_of_none rfl]
    exact settle_acts sdk audit r receipt
  | rejected error =>
    rw [firstSubmission_of_none rfl]
    exact reject_acts sdk audit r error
  | throws reason =>
    rw [firstSubmission_of_none rfl]
    exact fail_acts sdk audit r reason
  | ended rest =>
    rw [firstSubmission_of_none rfl]
    exact await_acts sdk audit rest r

theorem filterMap_told {β : Type} (f : Act ρ ε ξ α → Option β)
    (hf : ∀ e, f (.auditFailure e) = none) (told : List α) :
    (told.map Act.auditFailure).filterMap f = [] := by
  simp [List.filterMap_map, hf]

theorem closing_forwards (recorded : Option OperationId) (told : List α)
    (verdict : Verdict ρ ε ξ) :
    (closing sdk recorded told verdict).filterMap Act.verdict? = [verdict] ∧
      (closing sdk recorded told verdict).filterMap Act.submitted? = [] ∧
      (closing sdk recorded told verdict).filterMap Act.completing? =
        recorded.toList.map fun operationId => (operationId, verdict.outcome sdk) := by
  unfold closing
  simp only [List.filterMap_append]
  rw [filterMap_told _ (fun _ => rfl), filterMap_told _ (fun _ => rfl),
    filterMap_told _ (fun _ => rfl)]
  cases recorded <;> exact ⟨rfl, rfl, rfl⟩

/-- Whatever a write's submission does and whatever the audit log does with its row, the
relay reports `submitted` once at most and then one verdict, the write's; a recorded row's
completion with that outcome is attempted once, before. -/
theorem relay_forwards (source : Source ρ ε ξ) (log : σ) :
    Forwards sdk source (relay sdk audit log source).acts := by
  obtain ⟨told, h⟩ := pump_acts sdk audit source ⟨none, false, log, []⟩
  obtain ⟨hverdict, hsubmitted, hcompleting⟩ :=
    closing_forwards sdk (source.recordings.getLast?.or none) told source.verdict
  have hfirst : (relay sdk audit log source).acts =
      source.submissions.head?.toList.map .submitted ++
        closing sdk (source.recordings.getLast?.or none) told source.verdict := by
    rw [relay, h]
    simp [firstSubmission]
  rw [hfirst]
  exact {
    last := by simp [closing]
    verdicts := by
      rw [List.filterMap_append, hverdict]
      cases source.submissions.head? <;> simp [Act.verdict?]
    submissions := by
      rw [List.filterMap_append, hsubmitted]
      cases source.submissions.head? <;> simp [Act.submitted?]
    completions := by
      rw [List.filterMap_append, hcompleting, Option.or_none]
      cases source.submissions.head? <;> simp [Act.completing?] }

end Kippu.Audit.Forwarding
