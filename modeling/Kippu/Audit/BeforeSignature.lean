import Kippu.Audit.Signing

/-!
# The audit row comes before the signature

Whatever a key of the KMS signs, other than its own registration, is a command
that the same call recorded before and then found recorded, pending. A task
carries what was true at its earlier points as facts about earlier states of the
run; rows themselves only ever leave pending.
-/

namespace Kippu.Audit

variable {profile : ProfileV0} {s₀ s s' : State}

-- ---------------------------------------------------------------------------
-- Rows
-- ---------------------------------------------------------------------------

theorem record_ok {log log' : AuditLog} (h : log.record request command = .ok log') :
    log command.operationId = none ∧
      log' = Function.update log command.operationId (some ⟨request, command.kind, none⟩) := by
  unfold AuditLog.record at h
  split at h
  next => cases h
  next hnone =>
    cases h
    exact ⟨hnone, rfl⟩

theorem complete_ok {log log' : AuditLog} (h : log.complete operationId outcome = .ok log') :
    ∃ request kind, log operationId = some ⟨request, kind, none⟩ ∧
      log' = Function.update log operationId (some ⟨request, kind, some outcome⟩) := by
  unfold AuditLog.complete at h
  split at h
  next request kind hrow =>
    cases h
    exact ⟨request, kind, hrow, rfl⟩
  next => cases h

theorem Step.audit_of_ended (h : Step profile s s') (hrow : s.audit operationId = some row)
    (hended : row.outcome ≠ none) : s'.audit operationId = some row := by
  have hrecord : ∀ {request command log}, s.audit.record request command = .ok log →
      log operationId = some row := by
    intro request command log hlog
    obtain ⟨hnone, rfl⟩ := record_ok hlog
    have hne : operationId ≠ command.operationId := by
      rintro rfl
      rw [hrow] at hnone
      cases hnone
    rw [Function.update_of_ne hne, hrow]
  cases h with
  | recorded _ _ hlog => exact hrecord hlog
  | recordLost _ _ hlog => exact hrecord hlog
  | @completed t operation outcome log _ hlog =>
    obtain ⟨request, kind, hpending, rfl⟩ := complete_ok hlog
    have hne : operationId ≠ operation := by
      rintro rfl
      rw [hrow] at hpending
      cases hpending
      exact hended rfl
    simp only [State.put, Function.update_of_ne hne, hrow]
  | _ => exact hrow

/-- A row that left pending never changes. -/
theorem Steps.audit_of_ended (h : Steps profile s s') (hrow : s.audit operationId = some row)
    (hended : row.outcome ≠ none) : s'.audit operationId = some row := by
  induction h with
  | refl => exact hrow
  | step _ hstep ih => exact hstep.audit_of_ended ih hended

-- ---------------------------------------------------------------------------
-- What a task carries
-- ---------------------------------------------------------------------------

/-- In the run from `s₀` to `s`, task `t` inserted the row of its command, pending. -/
def Wrote (profile : ProfileV0) (s₀ s : State) (t : ℕ) (payload : Bytes) (command : Command) :
    Prop :=
  ∃ a a' r row, Steps profile s₀ a ∧ a.tasks t = some (.record r payload command) ∧
    a.audit command.operationId = none ∧ Step profile a a' ∧
    a'.audit command.operationId = some row ∧ row.commandKind = command.kind ∧
    row.outcome = none ∧ Steps profile a' s

/-- After that, and before the signature at place `n`, it found the row, pending. -/
def Checked (profile : ProfileV0) (s₀ s : State) (t : ℕ) (key : KeyRef) (payload : Bytes)
    (command : Command) (n : ℕ) : Prop :=
  ∃ b row, Wrote profile s₀ b t payload command ∧ b.tasks t = some (.find key payload command) ∧
    b.audit command.operationId = some row ∧ row.commandKind = command.kind ∧
    row.outcome = none ∧ b.signed.length ≤ n ∧ Steps profile b s

def TaskOk (profile : ProfileV0) (s₀ s : State) (t : ℕ) : Task → Prop
  | .authority .. => True
  | .record _ payload command => commandOfSigningPayload profile payload = some command
  | .find _ payload command =>
    commandOfSigningPayload profile payload = some command ∧ Wrote profile s₀ s t payload command
  | .sign key payload => ∃ command, commandOfSigningPayload profile payload = some command ∧
    Checked profile s₀ s t key payload command s.signed.length
  | .complete .. => True

/-- A signature is of the key's own registration, or of a command recorded and found before. -/
def SigningOk (profile : ProfileV0) (s₀ s : State) (n : ℕ) (signing : Signing) : Prop :=
  signing.digest = profile.p256RegistrationDigest (profile.publicKey signing.key) ∨
    ∃ payload command, signing.digest = profile.p256AuthorisationDigest payload ∧
      commandOfSigningPayload profile payload = some command ∧
      Checked profile s₀ s signing.task signing.key payload command n

structure Inv (profile : ProfileV0) (s₀ s : State) : Prop where
  tasks : ∀ t task, s.tasks t = some task → TaskOk profile s₀ s t task
  signed : ∀ n signing, s.signed[n]? = some signing → SigningOk profile s₀ s n signing

theorem Step.signed_le (h : Step profile s s') : s.signed.length ≤ s'.signed.length := by
  cases h with
  | registrationSigned => simp [State.put, State.kmsSign]
  | signed => simp [State.put, State.kmsSign]
  | _ => exact Nat.le_refl _

theorem Wrote.step (h : Wrote profile s₀ s t payload command) (hstep : Step profile s s') :
    Wrote profile s₀ s' t payload command := by
  obtain ⟨a, a', r, row, ha, htask, hnone, hwrite, hrow, hkind, hpending, hrun⟩ := h
  exact ⟨a, a', r, row, ha, htask, hnone, hwrite, hrow, hkind, hpending, hrun.step hstep⟩

theorem Checked.step (h : Checked profile s₀ s t key payload command n)
    (hstep : Step profile s s') (hn : n ≤ m) : Checked profile s₀ s' t key payload command m := by
  obtain ⟨b, row, hwrote, htask, hrow, hkind, hpending, hlength, hrun⟩ := h
  exact ⟨b, row, hwrote, htask, hrow, hkind, hpending, Nat.le_trans hlength hn, hrun.step hstep⟩

theorem TaskOk.step (h : TaskOk profile s₀ s t task) (hstep : Step profile s s') :
    TaskOk profile s₀ s' t task := by
  cases task with
  | authority => trivial
  | record => exact h
  | find => exact ⟨h.1, h.2.step hstep⟩
  | sign =>
    obtain ⟨command, hcommand, hchecked⟩ := h
    exact ⟨command, hcommand, hchecked.step hstep hstep.signed_le⟩
  | complete => trivial

theorem SigningOk.step (h : SigningOk profile s₀ s n signing) (hstep : Step profile s s') :
    SigningOk profile s₀ s' n signing := by
  rcases h with hregistration | ⟨payload, command, hdigest, hcommand, hchecked⟩
  · exact Or.inl hregistration
  · exact Or.inr ⟨payload, command, hdigest, hcommand, hchecked.step hstep (Nat.le_refl _)⟩

theorem Inv.move (h : Inv profile s₀ s) (hstep : Step profile s s')
    (htasks : s'.tasks = Function.update s.tasks t task) (hsigned : s'.signed = s.signed)
    (hok : ∀ next, task = some next → TaskOk profile s₀ s' t next) : Inv profile s₀ s' := by
  constructor
  · intro t' task' htask'
    rw [htasks] at htask'
    by_cases ht : t' = t
    · subst ht
      rw [Function.update_self] at htask'
      exact hok task' htask'
    · rw [Function.update_of_ne ht] at htask'
      exact (h.tasks t' task' htask').step hstep
  · intro n signing hsigning
    rw [hsigned] at hsigning
    exact (h.signed n signing hsigning).step hstep

theorem Inv.sign (h : Inv profile s₀ s) (hstep : Step profile s s')
    (htasks : s'.tasks = Function.update s.tasks t task)
    (hsigned : s'.signed = s.signed ++ [signing])
    (htask : ∀ next, task = some next → TaskOk profile s₀ s' t next)
    (hok : SigningOk profile s₀ s s.signed.length signing) : Inv profile s₀ s' := by
  constructor
  · intro t' task' htask'
    rw [htasks] at htask'
    by_cases ht : t' = t
    · subst ht
      rw [Function.update_self] at htask'
      exact htask task' htask'
    · rw [Function.update_of_ne ht] at htask'
      exact (h.tasks t' task' htask').step hstep
  · intro n other hother
    rw [hsigned, List.getElem?_append] at hother
    split at hother
    next => exact (h.signed n other hother).step hstep
    next hn =>
      rw [List.getElem?_singleton] at hother
      split at hother
      next hzero =>
        cases hother
        have hlast : n = s.signed.length := by omega
        subst hlast
        exact hok.step hstep
      next => cases hother

-- ---------------------------------------------------------------------------
-- Steps
-- ---------------------------------------------------------------------------

theorem taskOk_withAccount (h : withAccount organiser request write row = some task) :
    TaskOk profile s₀ s t task := by
  unfold withAccount provisioned at h
  split at h
  · split at h
    · cases h
      trivial
    · cases h
  · split at h
    · cases h
      trivial
    · cases h
      trivial

theorem taskOk_provisioned (h : provisioned organiser request write = some task) :
    TaskOk profile s₀ s t task := by
  unfold provisioned at h
  split at h
  · cases h
    trivial
  · cases h

theorem taskOk_auditedSign (h : auditedSign profile r payload = some task) :
    TaskOk profile s₀ s t task := by
  obtain ⟨command, hcommand, rfl⟩ := Option.map_eq_some_iff.mp h
  exact hcommand

theorem taskOk_organiserSign (hrun : Steps profile s₀ s) (hok : TaskOk profile s₀ s t task)
    (htask : s.tasks t = some task) (heq : task = .record r payload command)
    (hlog : s.audit.record request command = .ok s'.audit) (hstep : Step profile s s')
    (h : organiserSign profile key payload = some next) : TaskOk profile s₀ s' t next := by
  subst heq
  obtain ⟨command', hcommand', rfl⟩ := Option.map_eq_some_iff.mp h
  have hsame : command' = command := Option.some.inj (hcommand'.symm.trans hok)
  subst hsame
  obtain ⟨hnone, hlog'⟩ := record_ok hlog
  refine ⟨hcommand', s, s', r, ⟨request, command'.kind, none⟩, hrun, htask, hnone, hstep, ?_, rfl,
    rfl, .refl⟩
  rw [hlog', Function.update_self]

theorem taskOk_withRow (hok : TaskOk profile s₀ s t (.find key payload command))
    (htask : s.tasks t = some (.find key payload command)) (hstep : Step profile s s')
    (hsigned : s'.signed = s.signed)
    (h : withRow key payload command (s.audit command.operationId) = some next) :
    TaskOk profile s₀ s' t next := by
  unfold withRow at h
  split at h
  next => cases h
  next row hrow =>
    split at h
    next => cases h
    next hpending =>
      cases h
      simp only [ne_eq, not_or, not_not] at hpending
      refine ⟨command, hok.1, s, row, hok.2, htask, hrow, hpending.2, hpending.1, ?_, ?_⟩
      · exact Nat.le_of_eq (by rw [hsigned])
      · exact Steps.refl.step hstep

theorem Inv.step (h : Inv profile s₀ s) (hrun : Steps profile s₀ s) (hstep : Step profile s s') :
    Inv profile s₀ s' := by
  have hstep' := hstep
  cases hstep with
  | begin organiser request write =>
    refine h.move hstep' rfl rfl ?_
    rintro _ ⟨⟩
    trivial
  | accountFound htask hrow => exact h.move hstep' rfl rfl fun _ => taskOk_withAccount
  | accountCreated htask hrow => exact h.move hstep' rfl rfl fun _ => taskOk_withAccount
  | registrationSigned htask =>
    refine h.sign hstep' rfl rfl ?_ (Or.inl rfl)
    rintro _ ⟨⟩
    trivial
  | registrationStored htask hrow =>
    refine h.move hstep' rfl rfl ?_
    rintro _ ⟨⟩
    trivial
  | registrationRelayed htask hrow =>
    refine h.move hstep' rfl rfl ?_
    rintro _ ⟨⟩
    trivial
  | registrationAccepted htask =>
    refine h.move hstep' rfl rfl ?_
    rintro _ ⟨⟩
    trivial
  | registeredStored htask hrow => exact h.move hstep' rfl rfl fun _ => taskOk_provisioned
  | writeRelayed htask hrow => exact h.move hstep' rfl rfl (by rintro _ ⟨⟩)
  | signerCalled hrelay hsign =>
    refine h.move hstep' rfl rfl ?_
    rintro _ ⟨⟩
    exact taskOk_auditedSign hsign
  | recorded htask hrelay hlog =>
    exact h.move hstep' rfl rfl fun _ =>
      taskOk_organiserSign hrun (h.tasks _ _ htask) htask rfl hlog hstep'
  | recordLost htask hrelay hlog => exact h.move hstep' rfl rfl (by rintro _ ⟨⟩)
  | found htask =>
    exact h.move hstep' rfl rfl fun _ => taskOk_withRow (h.tasks _ _ htask) htask hstep' rfl
  | signed htask =>
    obtain ⟨command, hcommand, hchecked⟩ := h.tasks _ _ htask
    exact h.sign hstep' rfl rfl (by rintro _ ⟨⟩) (Or.inr ⟨_, command, rfl, hcommand, hchecked⟩)
  | ended hrelay hrecorded =>
    refine h.move hstep' rfl rfl ?_
    rintro _ ⟨⟩
    trivial
  | completed htask hlog => exact h.move hstep' rfl rfl (by rintro _ ⟨⟩)
  | fails htask => exact h.move hstep' rfl rfl (by rintro _ ⟨⟩)

theorem Steps.inv (h : Steps profile s₀ s) (hinit : s₀.Initial) : Inv profile s₀ s := by
  induction h with
  | refl =>
    constructor
    · intro t task htask
      rw [hinit.tasks] at htask
      cases htask
    · intro n signing hsigning
      simp [hinit.signed] at hsigning
  | step hrun hstep ih => exact ih.step hrun hstep

/-- In every run, each signature of a key is of its own registration, or of the signing
payload of a command whose row the same call had inserted, and had then found pending and of
the command's kind; and a row that left pending never changes. -/
theorem audit_before_signature (h : Steps profile s₀ s) (hinit : s₀.Initial) :
    (∀ n signing, s.signed[n]? = some signing → SigningOk profile s₀ s n signing) ∧
    (∀ operationId row, s.audit operationId = some row → row.outcome ≠ none →
      ∀ s', Steps profile s s' → s'.audit operationId = some row) := by
  constructor
  · exact (h.inv hinit).signed
  · intro operationId row hrow hended s' hrun
    exact hrun.audit_of_ended hrow hended

-- ---------------------------------------------------------------------------
-- One write
-- ---------------------------------------------------------------------------

/-- A command is one byte behind the tag. -/
def oneProfile : ProfileV0 where
  COMMAND_SIGNING_TAG := [7]
  decodeCommand
    | [_] => some ⟨"op", "issueTicket"⟩
    | _ => none
  p256AuthorisationDigest payload := payload
  p256RegistrationDigest key := key
  publicKey key := List.replicate key 2

def provisionedState : State where
  audit _ := none
  accounts organiser := if organiser = "o" then some ⟨3, true, true⟩ else none
  nextKey := 4
  relays _ := none
  nextRelay := 0
  tasks _ := none
  nextTask := 0
  signed := []

theorem audit_before_signature_one_write :
    ∃ s, s.signed = [⟨1, 3, [7, 1]⟩] ∧
      SigningOk oneProfile provisionedState s 0 ⟨1, 3, [7, 1]⟩ := by
  have hbegin : Step oneProfile provisionedState _ := .begin "o" ⟨"r", "p"⟩ true
  have hfound := (Steps.refl.step hbegin).step (.accountFound (t := 0) rfl rfl)
  have hrelayed := hfound.step (.writeRelayed (t := 0) rfl rfl)
  have hcommand : auditedSign oneProfile 0 [7, 1] =
      some (.record 0 [7, 1] ⟨"op", "issueTicket"⟩) := rfl
  have hcalled := hrelayed.step (.signerCalled rfl hcommand)
  have hrecorded := hcalled.step (.recorded (t := 1) rfl rfl rfl)
  have hread := hrecorded.step (.found (t := 1) rfl)
  have hsigned := hread.step (.signed (t := 1) rfl)
  exact ⟨_, rfl, (audit_before_signature hsigned ⟨fun _ => rfl, fun _ => rfl, rfl⟩).1 0 _ rfl⟩

end Kippu.Audit
