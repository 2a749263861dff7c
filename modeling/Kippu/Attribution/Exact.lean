import Kippu.Attribution.Runs

/-!
# The audit view

Every operation that a sale names is that of its own issuance, as signed; and while no
issuance with a recorded row is lost, every such row is joined to its sale, or still on
its way there (`view_exact`).
-/

namespace Kippu.Attribution

variable {fails : Prop} {s s' s'' s₀ : State} {o : OperationId} {j i : SaleId} {w w' : Issue}
  {row : AuditRow}

namespace State

def Caused (s : State) (o : OperationId) (j : SaleId) : Prop :=
  s.audit o = some ⟨.sale j, .issueTicket⟩

/-- The sale's issuance has its row, and `issue` is to name it. -/
def AtWork (s : State) (o : OperationId) (j : SaleId) : Prop :=
  ∃ w, s.issues j = some w ∧ w.point ≠ .ended ∧ (w.signing = .recorded o ∨ w.signing = .signed o)

/-- The view's rows are the audit rows of the sales' issuances, each with its sale; a sale being
issued may be yet to come. -/
structure Exact (s : State) : Prop where
  sound : ∀ o j, s.View o j → s.Caused o j
  named : ∀ o j, s.sales j = some (some o) → s.View o j ∧ s.signedAs j = some o
  complete : ∀ o j, s.Caused o j → s.View o j ∨ s.AtWork o j

end State

structure Issue.Ok (s : State) (j : SaleId) (w : Issue) : Prop where
  operationId : ∀ o, w.operationId = some o → (w.signing = .signed o ∨ w.signing = .over) ∧
    s.Caused o j ∧ s.signedAs j = some o
  caused : ∀ o, w.signing = .recorded o ∨ w.signing = .signed o → s.Caused o j
  signed : ∀ o, w.signing = .signed o → w.operationId = some o
  relays : w.point = .relays → w.signing = .idle
  records : w.point = .records → w.signing = .over ∨ ∃ o, w.signing = .signed o
  completes : w.point = .completes → w.signing = .idle ∨ w.signing = .over ∨
    ∃ o, w.signing = .signed o ∧ s.sales j = some (some o)
  stored : ∀ o, s.sales j = some (some o) → w.operationId = some o

structure Inv (fails : Prop) (s : State) : Prop where
  issues : ∀ j w, s.issues j = some w → w.Ok s j
  named : ∀ o j, s.sales j = some (some o) → s.Caused o j ∧ s.signedAs j = some o
  begun : ∀ o j, s.Caused o j → ∃ w, s.issues j = some w
  sales : ∀ j w, s.issues j = some w → ∃ op, s.sales j = some op
  complete : ¬ fails → ∀ o j, s.Caused o j → s.sales j = some (some o) ∨ s.AtWork o j

theorem Inv.initial (h : State.Initial s) : Inv fails s where
  issues j w hj := by simp [h.issues j] at hj
  named o j hj := by simp [h.sales j] at hj
  begun o j hc := absurd hc (h.audit o j)
  sales j w hj := by simp [h.issues j] at hj
  complete _ o j hc := absurd hc (h.audit o j)

/-! ### Issuances apart -/

structure Frame (s s' : State) (j : SaleId) : Prop where
  audit : ∀ o i, s.Caused o i → s'.Caused o i
  back : ∀ o i, i ≠ j → s'.Caused o i → s.Caused o i
  sales : ∀ i, i ≠ j → s'.sales i = s.sales i
  signedAs : ∀ i, i ≠ j → s'.signedAs i = s.signedAs i
  issues : ∀ i, i ≠ j → s'.issues i = s.issues i

theorem Frame.ok (hf : Frame s s' j) (hi : i ≠ j) (h : w.Ok s i) : w.Ok s' i where
  operationId o ho := by
    obtain ⟨hsig, hc, hs⟩ := h.operationId o ho
    exact ⟨hsig, hf.audit o i hc, (hf.signedAs i hi).trans hs⟩
  caused o ho := hf.audit o i (h.caused o ho)
  signed := h.signed
  relays := h.relays
  records := h.records
  completes hp := by
    rw [hf.sales i hi]
    exact h.completes hp
  stored o ho := h.stored o (hf.sales i hi ▸ ho)

theorem Inv.goes (hs : Inv fails s) (hf : Frame s s' j) (hj : s'.issues j = some w)
    (hok : w.Ok s' j) (hsale : ∃ op, s'.sales j = some op)
    (hnamed : ∀ o, s'.sales j = some (some o) → s'.Caused o j ∧ s'.signedAs j = some o)
    (hcomplete : ¬ fails → ∀ o, s'.Caused o j → s'.sales j = some (some o) ∨ s'.AtWork o j) :
    Inv fails s' where
  issues i v hi := by
    rcases eq_or_ne i j with rfl | hne
    · obtain rfl := Option.some.inj (hj.symm.trans hi)
      exact hok
    · exact hf.ok hne (hs.issues i v (hf.issues i hne ▸ hi))
  named o i hi := by
    rcases eq_or_ne i j with rfl | hne
    · exact hnamed o hi
    · obtain ⟨hc, hsig⟩ := hs.named o i (hf.sales i hne ▸ hi)
      exact ⟨hf.audit o i hc, (hf.signedAs i hne).trans hsig⟩
  begun o i hc := by
    rcases eq_or_ne i j with rfl | hne
    · exact ⟨w, hj⟩
    · rw [hf.issues i hne]
      exact hs.begun o i (hf.back o i hne hc)
  sales i v hi := by
    rcases eq_or_ne i j with rfl | hne
    · exact hsale
    · rw [hf.sales i hne]
      exact hs.sales i v (hf.issues i hne ▸ hi)
  complete hfails o i hc := by
    rcases eq_or_ne i j with rfl | hne
    · exact hcomplete hfails o hc
    · rcases hs.complete hfails o i (hf.back o i hne hc) with h | ⟨v, hi, hw⟩
      · exact .inl ((hf.sales i hne).trans h)
      · exact .inr ⟨v, (hf.issues i hne).trans hi, hw⟩

theorem frame_setIssue (s : State) (j : SaleId) (w : Issue) : Frame s (s.setIssue j w) j where
  audit _ _ h := h
  back _ _ _ h := h
  sales _ _ := rfl
  signedAs _ _ := rfl
  issues _ hne := Function.update_of_ne hne _ _

theorem setIssue_self (s : State) (j : SaleId) (w : Issue) : (s.setIssue j w).issues j = some w :=
  Function.update_self ..

theorem Inv.moves (hs : Inv fails s) (hj : s.issues j = some w) (hok : w'.Ok s j)
    (hkeep : ¬ fails → ∀ o, w.point ≠ .ended → (w.signing = .recorded o ∨ w.signing = .signed o) →
      s.sales j = some (some o) ∨
        w'.point ≠ .ended ∧ (w'.signing = .recorded o ∨ w'.signing = .signed o)) :
    Inv fails (s.setIssue j w') := by
  refine hs.goes (frame_setIssue s j w') (setIssue_self s j w') ?_ (hs.sales j w hj)
    (fun o ho => hs.named o j ho) fun hfails o hc => ?_
  · exact ⟨hok.operationId, hok.caused, hok.signed, hok.relays, hok.records, hok.completes,
      hok.stored⟩
  · rcases hs.complete hfails o j hc with h | ⟨v, hv, hp, hsig⟩
    · exact .inl h
    · obtain rfl := Option.some.inj (hj.symm.trans hv)
      rcases hkeep hfails o hp hsig with h | ⟨hp', hsig'⟩
      · exact .inl h
      · exact .inr ⟨w', setIssue_self s j w', hp', hsig'⟩

/-! ### The parts of a step -/

theorem caused_record (ho : s.audit o = none) {p : OperationId} (h : s.Caused p j) :
    (s.record o row).Caused p j := by
  have hne : p ≠ o := by
    rintro rfl
    cases ho.symm.trans h
  simpa [State.Caused, State.record, Function.update_of_ne hne] using h

theorem caused_of_record {p : OperationId} (hne : p ≠ o) (h : (s.record o row).Caused p j) :
    s.Caused p j := by
  simpa [State.Caused, State.record, Function.update_of_ne hne] using h

theorem caused_record_self : (s.record o ⟨.sale j, .issueTicket⟩).Caused o j := by
  simp [State.Caused, State.record]

theorem Inv.recordsOther (hs : Inv fails s) (ho : s.audit o = none)
    (hrow : ∀ j, row ≠ ⟨.sale j, .issueTicket⟩) : Inv fails (s.record o row) := by
  have hback : ∀ p i, (s.record o row).Caused p i → s.Caused p i := by
    intro p i h
    refine caused_of_record ?_ h
    rintro rfl
    exact hrow i (by simpa [State.Caused, State.record] using h)
  constructor
  case issues =>
    intro i w hi
    have h := hs.issues i w hi
    refine ⟨fun p hp => ?_, fun p hp => caused_record ho (h.caused p hp), h.signed, h.relays,
      h.records, h.completes, h.stored⟩
    obtain ⟨hsig, hc, hsa⟩ := h.operationId p hp
    exact ⟨hsig, caused_record ho hc, hsa⟩
  case named =>
    intro p i hi
    obtain ⟨hc, hsa⟩ := hs.named p i hi
    exact ⟨caused_record ho hc, hsa⟩
  case begun => exact fun p i hc => hs.begun p i (hback p i hc)
  case sales => exact hs.sales
  case complete => exact fun hfails p i hc => hs.complete hfails p i (hback p i hc)

theorem Inv.records (hs : Inv fails s) (hj : s.issues j = some w) (hw : w.signing = .asked)
    (ho : s.audit o = none) (hpoint : w'.point = w.point) (hop : w'.operationId = w.operationId)
    (hsig : w'.signing = .recorded o ∧ (w.point = .ended → fails) ∨ w'.signing = .over ∧ fails) :
    Inv fails ((s.record o ⟨.sale j, .issueTicket⟩).setIssue j w') := by
  have hok := hs.issues j w hj
  have hnone : w.operationId = none := by
    cases h : w.operationId with
    | none => rfl
    | some p => simpa [hw] using (hok.operationId p h).1
  have hunstored : ∀ p, s.sales j ≠ some (some p) := by
    intro p hp
    cases hnone.symm.trans (hok.stored p hp)
  have hself : ((s.record o ⟨.sale j, .issueTicket⟩).setIssue j w').Caused o j :=
    caused_record_self
  have hf : Frame s ((s.record o ⟨.sale j, .issueTicket⟩).setIssue j w') j := by
    refine ⟨fun p i h => caused_record ho h, fun p i hne h => caused_of_record ?_ h,
      fun _ _ => rfl, fun _ _ => rfl, fun _ hne => Function.update_of_ne hne _ _⟩
    rintro rfl
    have heq : j = i := by simpa [State.Caused, State.record, State.setIssue] using h
    exact hne heq.symm
  refine hs.goes hf (setIssue_self _ j w') ⟨?_, ?_, ?_, ?_, ?_, ?_, ?_⟩ (hs.sales j w hj)
    (fun p hp => absurd hp (hunstored p)) fun hfails p hc => ?_
  · intro p hp
    cases hnone.symm.trans (hop.symm.trans hp)
  · intro p hp
    rcases hsig with ⟨h, -⟩ | ⟨h, -⟩ <;> simp [h] at hp
    exact hp ▸ hself
  · intro p hp
    rcases hsig with ⟨h, -⟩ | ⟨h, -⟩ <;> simp [h] at hp
  · intro hp
    have := hok.relays (hpoint ▸ hp)
    simp [hw] at this
  · intro hp
    rcases hok.records (hpoint ▸ hp) with h | ⟨p, h⟩ <;> simp [hw] at h
  · intro hp
    rcases hok.completes (hpoint ▸ hp) with h | h | ⟨p, h, -⟩ <;> simp [hw] at h
  · exact fun p hp => absurd hp (hunstored p)
  · rcases hsig with ⟨hrec, hpt⟩ | ⟨-, h⟩
    · rcases eq_or_ne p o with rfl | hne
      · refine .inr ⟨w', setIssue_self _ j w', ?_, .inl hrec⟩
        rw [hpoint]
        exact fun h => hfails (hpt h)
      · rcases hs.complete hfails p j (caused_of_record hne hc) with h | ⟨v, hv, -, hvsig⟩
        · exact absurd h (hunstored p)
        · obtain rfl := Option.some.inj (hj.symm.trans hv)
          simp [hw] at hvsig
    · exact absurd h hfails

theorem Inv.signs (hs : Inv fails s) (hj : s.issues j = some w) (hw : w.signing = .recorded o) :
    Inv fails ((s.sign j o).setIssue j { w with signing := .signed o, operationId := some o }) := by
  have hok := hs.issues j w hj
  have hc := hok.caused o (.inl hw)
  have hunstored : ∀ p, s.sales j ≠ some (some p) := by
    intro p hp
    simpa [hw] using (hok.operationId p (hok.stored p hp)).1
  have hf : Frame s ((s.sign j o).setIssue j
      { w with signing := .signed o, operationId := some o }) j :=
    ⟨fun _ _ h => h, fun _ _ _ h => h, fun _ _ => rfl,
      fun _ hne => Function.update_of_ne hne _ _, fun _ hne => Function.update_of_ne hne _ _⟩
  refine hs.goes hf (setIssue_self _ j _) ⟨?_, ?_, ?_, ?_, ?_, ?_, ?_⟩ (hs.sales j w hj)
    (fun p hp => absurd hp (hunstored p)) fun hfails p hcp => ?_
  · rintro p ⟨⟩
    exact ⟨.inl rfl, hc, Function.update_self ..⟩
  · intro p hp
    obtain rfl : o = p := by simpa using hp
    exact hc
  · rintro p ⟨⟩
    rfl
  · intro hp
    have := hok.relays hp
    simp [hw] at this
  · exact fun _ => .inr ⟨o, rfl⟩
  · intro hp
    rcases hok.completes hp with h | h | ⟨p, h, -⟩ <;> simp [hw] at h
  · exact fun p hp => absurd hp (hunstored p)
  · rcases hs.complete hfails p j hcp with h | ⟨v, hv, hpt, hsig⟩
    · exact absurd h (hunstored p)
    · obtain rfl := Option.some.inj (hj.symm.trans hv)
      obtain rfl : o = p := by simpa [hw] using hsig
      exact .inr ⟨_, setIssue_self _ j _, hpt, .inr rfl⟩

theorem Inv.stores (hs : Inv fails s) (hj : s.issues j = some w) (hw : w.operationId = some o)
    (point : Point) (hpoint : point = .completes ∨ point = .ended) :
    Inv fails ((s.setOperation j (some o)).setIssue j { w with point := point }) := by
  have hok := hs.issues j w hj
  obtain ⟨hsig, hc, hsa⟩ := hok.operationId o hw
  have hstored : ((s.setOperation j (some o)).setIssue j { w with point := point }).sales j =
      some (some o) := Function.update_self ..
  have hf : Frame s ((s.setOperation j (some o)).setIssue j { w with point := point }) j :=
    ⟨fun _ _ h => h, fun _ _ _ h => h, fun _ hne => Function.update_of_ne hne _ _,
      fun _ _ => rfl, fun _ hne => Function.update_of_ne hne _ _⟩
  refine hs.goes hf (setIssue_self _ j _) ⟨hok.operationId, hok.caused, hok.signed, ?_, ?_, ?_, ?_⟩
    ⟨_, hstored⟩ (fun p hp => ?_) fun hfails p hcp => ?_
  · rcases hpoint with rfl | rfl <;> simp
  · rcases hpoint with rfl | rfl <;> simp
  · intro _
    rcases hsig with h | h
    · exact .inr (.inr ⟨o, h, hstored⟩)
    · exact .inr (.inl h)
  · intro p hp
    obtain rfl : o = p := by simpa [hstored] using hp
    exact hw
  · obtain rfl : o = p := by simpa [hstored] using hp
    exact ⟨hc, hsa⟩
  · refine .inl (hstored.trans ?_)
    rcases hs.complete hfails p j hcp with h | ⟨v, hv, -, hvsig⟩
    · rw [← hw, hok.stored p h]
    · obtain rfl := Option.some.inj (hj.symm.trans hv)
      rcases hvsig with h | h
      · simp [h] at hsig
      · rw [← hw, hok.signed p h]

theorem Issue.Ok.goto (h : w.Ok s j) (point : Point) (hrelays : point ≠ .relays)
    (hrecords : point = .records → w.signing = .over ∨ ∃ o, w.signing = .signed o)
    (hcompletes : point = .completes → w.signing = .idle ∨ w.signing = .over ∨
      ∃ o, w.signing = .signed o ∧ s.sales j = some (some o)) :
    Issue.Ok s j { w with point := point } :=
  ⟨h.operationId, h.caused, h.signed, fun hp => absurd hp hrelays, hrecords, hcompletes, h.stored⟩

theorem Inv.goto (hs : Inv fails s) (hj : s.issues j = some w) (point : Point)
    (hrelays : point ≠ .relays) (hended : point ≠ .ended)
    (hrecords : point = .records → w.signing = .over ∨ ∃ o, w.signing = .signed o)
    (hcompletes : point = .completes → w.signing = .idle ∨ w.signing = .over ∨
      ∃ o, w.signing = .signed o ∧ s.sales j = some (some o)) :
    Inv fails (s.setIssue j { w with point := point }) :=
  hs.moves hj ((hs.issues j w hj).goto point hrelays hrecords hcompletes)
    fun _ _ _ hsig => .inr ⟨hended, hsig⟩

theorem Inv.ends (hs : Inv fails s) (hj : s.issues j = some w) (hlost : s.Unjoined j w → fails) :
    Inv fails (s.setIssue j { w with point := .ended }) := by
  refine hs.moves hj ((hs.issues j w hj).goto _ (by simp) (by simp) (by simp))
    fun hfails o _ hsig => .inl ?_
  by_contra h
  exact hfails (hlost ⟨o, hsig, h⟩)

theorem Issue.Ok.over (h : w.Ok s j) (point : Point) (hrelays : point ≠ .relays) :
    Issue.Ok s j { w with point := point, signing := .over } where
  operationId o ho := ⟨.inr rfl, (h.operationId o ho).2⟩
  caused o ho := by simp at ho
  signed o ho := by simp at ho
  relays hp := absurd hp hrelays
  records _ := .inl rfl
  completes _ := .inr (.inl rfl)
  stored := h.stored

theorem Inv.begins (hs : Inv fails s) (hj : s.sales j = none) :
    Inv fails ((s.setOperation j none).setIssue j ⟨.relays, .idle, none⟩) := by
  have hnone : s.issues j = none := by
    by_contra h
    obtain ⟨w, hw⟩ := Option.ne_none_iff_exists'.mp h
    obtain ⟨op, hop⟩ := hs.sales j w hw
    cases hj.symm.trans hop
  have hfresh : ∀ o, ¬ s.Caused o j := by
    intro o ho
    obtain ⟨w, hw⟩ := hs.begun o j ho
    cases hnone.symm.trans hw
  have hself : ((s.setOperation j none).setIssue j ⟨.relays, .idle, none⟩).sales j = some none :=
    Function.update_self ..
  have hf : Frame s ((s.setOperation j none).setIssue j ⟨.relays, .idle, none⟩) j :=
    ⟨fun _ _ h => h, fun _ _ _ h => h, fun _ hne => Function.update_of_ne hne _ _,
      fun _ _ => rfl, fun _ hne => Function.update_of_ne hne _ _⟩
  refine hs.goes hf (setIssue_self _ j _) ⟨by simp, by simp, by simp, fun _ => rfl, by simp,
    by simp, ?_⟩ ⟨_, hself⟩ ?_ (fun _ o ho => absurd ho (hfresh o))
  · intro o ho
    cases hself.symm.trans ho
  · intro o ho
    cases hself.symm.trans ho

/-! ### Runs -/

theorem Inv.step (h : Inv fails s) (hs : Step fails s s') : Inv fails s' := by
  cases hs with
  | begins hj => exact h.begins hj
  | recordsOther row ho hrow => exact h.recordsOther ho hrow
  | @relayThrew j w hj hp =>
    have hidle := (h.issues j w hj).relays hp
    exact h.goto hj _ (by simp) (by simp) (by simp) fun _ => .inl hidle
  | @relayed j w hj hp =>
    have hok := h.issues j w hj
    have hidle := hok.relays hp
    refine h.moves hj ⟨fun o ho => ?_, by simp, by simp, by simp, by simp, by simp, hok.stored⟩
      fun _ o _ hsig => ?_
    · simpa [hidle] using (hok.operationId o ho).1
    · simp [hidle] at hsig
  | audits hj hw ho hp => exact h.records hj hw ho rfl rfl (.inl ⟨rfl, hp⟩)
  | @auditThrew j w hj hw =>
    have hok := h.issues j w hj
    have hp : w.point ≠ .relays := by
      intro hp
      cases hw.symm.trans (hok.relays hp)
    exact h.moves hj (hok.over w.point hp) fun _ o _ hsig => by simp [hw] at hsig
  | auditLost hj hw ho hfails => exact h.records hj hw ho rfl rfl (.inr ⟨rfl, hfails⟩)
  | signs hj hw => exact h.signs hj hw
  | @signThrew j w o hj hw hfails =>
    have hok := h.issues j w hj
    have hp : w.point ≠ .relays := by
      intro hp
      cases hw.symm.trans (hok.relays hp)
    exact h.moves hj (hok.over w.point hp) fun hno => absurd hfails hno
  | ticketed hj _ => exact h.goto hj _ (by simp) (by simp) (by simp) (by simp)
  | ticketFailed hj _ hlost | recordFailed hj _ hlost => exact h.ends hj hlost
  | submissionEnds hj _ hsig => exact h.goto hj _ (by simp) (by simp) (fun _ => hsig) (by simp)
  | recordsOperation hj _ hw => exact h.stores hj hw _ (.inl rfl)
  | recordLost hj _ hw => exact h.stores hj hw _ (.inr rfl)
  | @recordsNothing j w hj hp hw =>
    have hok := h.issues j w hj
    refine h.goto hj _ (by simp) (by simp) (by simp) fun _ => ?_
    rcases hok.records hp with hover | ⟨o, hsig⟩
    · exact .inr (.inl hover)
    · cases hw.symm.trans (hok.signed o hsig)
  | @completed j w hj hp =>
    refine h.ends hj fun ⟨o, hsig, hno⟩ => ?_
    rcases (h.issues j w hj).completes hp with hidle | hover | ⟨p, hsigned, hstored⟩
    · simp [hidle] at hsig
    · simp [hover] at hsig
    · obtain rfl : p = o := by simpa [hsigned] using hsig
      exact absurd hstored hno
  | @stops j w hj hlost =>
    refine h.moves hj ((h.issues j w hj).over .ended (by simp)) fun hfails o _ hsig => .inl ?_
    by_contra hno
    exact hfails (hlost ⟨o, hsig, hno⟩)

theorem Inv.steps (h : Inv fails s) (hs : Steps fails s s') : Inv fails s' := by
  induction hs with
  | refl => exact h
  | step _ hstep ih => exact ih.step hstep

theorem Inv.view (h : Inv fails s) (hj : s.sales j = some (some o)) : s.View o j :=
  ⟨⟨_, (h.named o j hj).1⟩, hj⟩

/-- Whatever fails, the view has no row of a granted issuance, nor one joined to another sale. -/
theorem view_sound (h₀ : State.Initial s₀) (hs : Steps fails s₀ s) (hv : s.View o j) :
    s.Caused o j ∧ s.signedAs j = some o :=
  (((Inv.initial h₀).steps hs).named o j hv.2)

/-- While no issuance with a recorded row is lost, the view is exact in every state. -/
theorem view_exact (h₀ : State.Initial s₀) (hs : Steps False s₀ s) : s.Exact where
  sound _ _ hv := (view_sound h₀ hs hv).1
  named o j hj := by
    have h := (Inv.initial h₀).steps hs
    exact ⟨h.view hj, (h.named o j hj).2⟩
  complete o j hc := by
    have h := (Inv.initial h₀).steps hs
    rcases h.complete id o j hc with hj | hw
    · exact .inl (h.view hj)
    · exact .inr hw

def State.start : State where
  audit _ := none
  sales _ := none
  issues _ := none
  signedAs _ := none

theorem State.start_initial : State.start.Initial :=
  ⟨by simp [State.start], fun _ => rfl, fun _ => rfl⟩

/-- A sale's issuance is signed, and its operation stored. -/
theorem view_exact_one : ∃ s, Steps False State.start s ∧ s.Caused 7 1 ∧ s.View 7 1 ∧ s.Exact := by
  have h₁ : Steps False State.start _ := Steps.refl.step (Step.begins (j := 1) rfl)
  have h₂ := h₁.step (Step.relayed (j := 1) rfl rfl)
  have h₃ := h₂.step (Step.ticketed (j := 1) rfl rfl)
  have h₄ := h₃.step (Step.audits (j := 1) (o := 7) rfl rfl rfl (by simp))
  have h₅ := h₄.step (Step.signs (j := 1) rfl rfl)
  have h₆ := h₅.step (Step.submissionEnds (j := 1) rfl rfl (.inr ⟨7, rfl⟩))
  have h₇ := h₆.step (Step.recordsOperation (j := 1) (o := 7) rfl rfl rfl)
  have h₈ := h₇.step (Step.completed (j := 1) rfl rfl)
  exact ⟨_, h₈, rfl, ⟨⟨_, rfl⟩, rfl⟩, view_exact State.start_initial h₈⟩

/-- The key service fails once the row of a sale's issuance is recorded: the sale ends, and no row
of the view is its issuance's. -/
theorem unsigned_issuance_unjoined :
    ¬ ∀ s, Steps True State.start s → s.Exact := by
  intro hall
  have h₁ : Steps True State.start _ := Steps.refl.step (Step.begins (j := 1) rfl)
  have h₂ := h₁.step (Step.relayed (j := 1) rfl rfl)
  have h₃ := h₂.step (Step.ticketed (j := 1) rfl rfl)
  have h₄ := h₃.step (Step.audits (j := 1) (o := 7) rfl rfl rfl (by simp))
  have h₅ := h₄.step (Step.signThrew (j := 1) rfl rfl trivial)
  have h₆ := h₅.step (Step.submissionEnds (j := 1) rfl rfl (.inl rfl))
  have h₇ := h₆.step (Step.recordsNothing (j := 1) rfl rfl rfl)
  have h₈ := h₇.step (Step.completed (j := 1) rfl rfl)
  rcases (hall _ h₈).complete 7 1 rfl with hv | ⟨w, hw, hp, -⟩
  · cases hv.2
  · obtain rfl := Option.some.inj hw
    exact hp rfl

end Kippu.Attribution
