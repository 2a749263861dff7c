import Kippu.Redeeming.Runs

/-!
# An invitation issues one ticket at most

An invitation is reopened only once every issuance relayed for it has been refused, so
whatever became of the others, one ticket at most was issued through it
(`issues_once`).
-/

namespace Kippu.Redeeming

variable {s s' s'' s₀ : State} {t t' : ℕ} {i : Issuing.InvitationId} {a b : Issuing.Attempt}
  {p q : Issuance} {k k' : Task} {new : Option Task} {row : Invitation} {x : AccountId}

namespace State

def IssuedTo (s : State) (i : Issuing.InvitationId) (k : TicketId) (x : AccountId) : Prop :=
  ∃ a p, s.issuances a = some p ∧ p.invitation = i ∧ s.issued k = some ⟨x, some a⟩

/-- Every other issuance relayed for the invitation was refused. -/
def Only (s : State) (i : Issuing.InvitationId) (a : Issuing.Attempt) : Prop :=
  ∀ b q, s.issuances b = some q → q.invitation = i → b ≠ a → q.verdict = .refused

/-- Every issuance relayed for the invitation was refused. -/
def Dead (s : State) (i : Issuing.InvitationId) : Prop :=
  ∀ b q, s.issuances b = some q → q.invitation = i → q.verdict = .refused

def Relayed (s : State) (i : Issuing.InvitationId) (x : AccountId) (a : Issuing.Attempt)
    (p : Issuance) : Prop :=
  s.issuances a = some p ∧ p.invitation = i ∧ p.holder = x ∧ s.Only i a

def Alone (s : State) : Prop :=
  ∀ t t' k k', s.tasks t = some k → s.tasks t' = some k' → k.invitation = k'.invitation → t = t'

end State

def Task.Knows (s : State) (x : AccountId) : Task → Prop
  | .reserve i y | .relay i y => y = x ∧ s.Dead i
  | .undo i thrown => s.Dead i ∧ ∀ k, thrown ≠ .issued k
  | .ticket i a | .await i a => ∃ p, s.Relayed i x a p
  | .complete i a outcome => ∃ p, s.Relayed i x a p ∧
      (outcome = .issued → p.verdict = .accepted) ∧ (outcome = .rejected → p.verdict = .refused)
  | .settle i (.issued k) => ∃ a p, s.Relayed i x a p ∧ p.verdict = .accepted ∧ p.ticket = k
  | .settle i .refusal => s.Dead i
  | .settle _ .error => True

structure Inv (s : State) : Prop where
  tasks : ∀ t k, s.tasks t = some k → ∃ row x, s.invitations k.invitation = some row ∧
    row.status = .redeeming ∧ row.holder = some x ∧ row.ticket = none ∧ k.Knows s x
  alone : s.Alone
  opened : ∀ i row, s.invitations i = some row → row.status = .opened →
    s.Dead i ∧ row.ticket = none
  redeemed : ∀ i row, s.invitations i = some row → row.status = .redeemed →
    ∃ x a p, row.holder = some x ∧ s.Relayed i x a p ∧ p.verdict = .accepted ∧
      row.ticket = some p.ticket
  one : ∀ i, ∃ a, s.Only i a
  unknown : ∀ i, s.invitations i = none → s.Dead i
  /-- The ledger's tickets of redemptions are those of the accepted issuances. -/
  issued : ∀ k x a, s.issued k = some ⟨x, some a⟩ ↔
    ∃ p, s.issuances a = some p ∧ p.verdict = .accepted ∧ p.ticket = k ∧ p.holder = x

theorem Inv.initial (h : State.Initial s) : Inv s where
  tasks t k ht := by simp [h.tasks t] at ht
  alone t _ k _ ht := by simp [h.tasks t] at ht
  opened i row hi := by simp [h.invitations i] at hi
  redeemed i row hi := by simp [h.invitations i] at hi
  one i := ⟨0, fun b q hb => by simp [h.issuances b] at hb⟩
  unknown i _ b q hb := by simp [h.issuances b] at hb
  issued k x a := by
    constructor
    · intro hk
      cases h.issued _ _ hk
    · rintro ⟨p, hp, -⟩
      simp [h.issuances a] at hp

/-! ### What the redemptions know is kept -/

/-- From `s` on to `s'`, an issuance of the invitation keeps its terms, and a verdict its ruling. -/
structure Keeps (s s' : State) (i : Issuing.InvitationId) : Prop where
  forth : ∀ a p, s.issuances a = some p → p.invitation = i → ∃ p', s'.issuances a = some p' ∧
    p'.invitation = i ∧ p'.holder = p.holder ∧ p'.ticket = p.ticket ∧
    (p.verdict ≠ .submitted → p'.verdict = p.verdict)
  back : ∀ a p', s'.issuances a = some p' → p'.invitation = i → ∃ p, s.issuances a = some p ∧
    p.invitation = i ∧ (p.verdict ≠ .submitted → p'.verdict = p.verdict)

theorem Keeps.of_eq (h : s'.issuances = s.issuances) (i : Issuing.InvitationId) : Keeps s s' i where
  forth _ p ha hi := ⟨p, h ▸ ha, hi, rfl, rfl, fun _ => rfl⟩
  back _ p ha hi := ⟨p, h ▸ ha, hi, fun _ => rfl⟩

theorem Keeps.dead (h : Keeps s s' i) (hd : s.Dead i) : s'.Dead i := by
  intro b q hb hi
  obtain ⟨p, hp, hpi, hv⟩ := h.back b q hb hi
  have hr := hd b p hp hpi
  exact (hv (by simp [hr])).trans hr

theorem Keeps.only (h : Keeps s s' i) (ho : s.Only i a) : s'.Only i a := by
  intro b q hb hi hne
  obtain ⟨p, hp, hpi, hv⟩ := h.back b q hb hi
  have hr := ho b p hp hpi hne
  exact (hv (by simp [hr])).trans hr

theorem Keeps.relayed (h : Keeps s s' i) (hr : s.Relayed i x a p) :
    ∃ p', s'.Relayed i x a p' ∧ p'.ticket = p.ticket ∧
      (p.verdict ≠ .submitted → p'.verdict = p.verdict) := by
  obtain ⟨ha, hi, hx, ho⟩ := hr
  obtain ⟨p', ha', hi', hx', hk, hv⟩ := h.forth a p ha hi
  exact ⟨p', ⟨ha', hi', hx'.trans hx, h.only ho⟩, hk, hv⟩

theorem Keeps.knows (h : Keeps s s' k.invitation) (hk : k.Knows s x) : k.Knows s' x := by
  cases k with
  | reserve i y | relay i y => exact ⟨hk.1, h.dead hk.2⟩
  | undo i thrown => exact ⟨h.dead hk.1, hk.2⟩
  | ticket i a | await i a =>
    obtain ⟨p, hp⟩ := hk
    obtain ⟨p', hp', -⟩ := h.relayed hp
    exact ⟨p', hp'⟩
  | complete i a outcome =>
    obtain ⟨p, hp, hacc, href⟩ := hk
    obtain ⟨p', hp', -, hv⟩ := h.relayed hp
    refine ⟨p', hp', fun ho => ?_, fun ho => ?_⟩
    · exact (hv (by simp [hacc ho])).trans (hacc ho)
    · exact (hv (by simp [href ho])).trans (href ho)
  | settle i result =>
    cases result with
    | issued k =>
      obtain ⟨a, p, hp, hacc, hk⟩ := hk
      obtain ⟨p', hp', hk', hv⟩ := h.relayed hp
      exact ⟨a, p', hp', (hv (by simp [hacc])).trans hacc, hk'.trans hk⟩
    | refusal => exact h.dead hk
    | error => trivial

/-! ### The parts of a step -/

theorem State.Alone.put (h : s.Alone)
    (hfree : ∀ u l, u ≠ t → s.tasks u = some l → l.invitation ≠ k.invitation) :
    (s.put t (some k)).Alone := by
  have hothers : ∀ u l, u ≠ t → (s.put t (some k)).tasks u = some l → s.tasks u = some l := by
    intro u l hne hu
    simpa [State.put, Function.update_of_ne hne] using hu
  have htask : ∀ l, (s.put t (some k)).tasks t = some l → l = k := by
    intro l hl
    simpa [State.put, eq_comm] using hl
  intro u u' l l' hu hu' hl
  by_cases hut : u = t <;> by_cases hut' : u' = t
  · exact hut.trans hut'.symm
  · obtain rfl := htask l (hut ▸ hu)
    exact absurd hl.symm (hfree u' l' hut' (hothers u' l' hut' hu'))
  · obtain rfl := htask l' (hut' ▸ hu')
    exact absurd hl (hfree u l hut (hothers u l hut hu))
  · exact h u u' l l' (hothers u l hut hu) (hothers u' l' hut' hu') hl

theorem Inv.goto (hs : Inv s) (ht : s.tasks t = some k) (hi : k'.invitation = k.invitation)
    (hk : ∀ x, k.Knows s x → k'.Knows s x) : Inv (s.put t (some k')) where
  tasks u l hu := by
    rcases eq_or_ne u t with rfl | hne
    · obtain rfl : k' = l := by simpa [State.put] using hu
      obtain ⟨row, x, hrow, hst, hx, hn, hkn⟩ := hs.tasks u k ht
      exact ⟨row, x, hi ▸ hrow, hst, hx, hn, (Keeps.of_eq rfl _).knows (hk x hkn)⟩
    · have hu' : s.tasks u = some l := by simpa [State.put, Function.update_of_ne hne] using hu
      obtain ⟨row, x, hrow, hst, hx, hn, hkn⟩ := hs.tasks u l hu'
      exact ⟨row, x, hrow, hst, hx, hn, (Keeps.of_eq rfl _).knows hkn⟩
  alone := hs.alone.put fun u l hne hu hl => hne (hs.alone u t l k hu ht (hl.trans hi))
  opened := hs.opened
  redeemed := hs.redeemed
  one := hs.one
  unknown := hs.unknown
  issued := hs.issued

theorem Inv.stop (hs : Inv s) (t : ℕ) : Inv (s.put t none) := by
  have key : ∀ v m, (s.put t none).tasks v = some m → s.tasks v = some m := by
    intro v m hv
    rcases eq_or_ne v t with rfl | hne
    · simp [State.put] at hv
    · simpa [State.put, Function.update_of_ne hne] using hv
  refine { hs with tasks := fun u l hu => ?_, alone := fun u u' l l' hu hu' => ?_ }
  · obtain ⟨row, x, hrow, hst, hx, hn, hkn⟩ := hs.tasks u l (key u l hu)
    exact ⟨row, x, hrow, hst, hx, hn, (Keeps.of_eq rfl _).knows hkn⟩
  · exact hs.alone u u' l l' (key u l hu) (key u' l' hu')

theorem Inv.others (hs : Inv s) (ht : s.tasks t = some k) (u : ℕ) (l : Task) (hne : u ≠ t)
    (hu : s.tasks u = some l) : l.invitation ≠ k.invitation :=
  fun hl => hne (hs.alone u t l k hu ht hl)

theorem Inv.free (hs : Inv s) (ht : s.tasks t = some k) (u : ℕ) (l : Task)
    (hu : (s.put t none).tasks u = some l) : l.invitation ≠ k.invitation := by
  rcases eq_or_ne u t with rfl | hne
  · simp [State.put] at hu
  · exact hs.others ht u l hne (by simpa [State.put, Function.update_of_ne hne] using hu)

theorem Inv.setInvitation (hs : Inv s) (hfree : ∀ t k, s.tasks t = some k → k.invitation ≠ i)
    (hopen : row.status = .opened → s.Dead i ∧ row.ticket = none)
    (hred : row.status = .redeemed → ∃ x a p, row.holder = some x ∧ s.Relayed i x a p ∧
      p.verdict = .accepted ∧ row.ticket = some p.ticket) : Inv (s.setInvitation i row) where
  tasks t k ht := by
    obtain ⟨r, x, hr, h⟩ := hs.tasks t k ht
    refine ⟨r, x, ?_, h.1, h.2.1, h.2.2.1, (Keeps.of_eq rfl _).knows h.2.2.2⟩
    simpa [State.setInvitation, Function.update_of_ne (hfree t k ht)] using hr
  alone := hs.alone
  opened j r hj hst := by
    rcases eq_or_ne j i with rfl | hne
    · obtain rfl : row = r := by simpa [State.setInvitation] using hj
      exact hopen hst
    · exact hs.opened j r (by simpa [State.setInvitation, Function.update_of_ne hne] using hj) hst
  redeemed j r hj hst := by
    rcases eq_or_ne j i with rfl | hne
    · obtain rfl : row = r := by simpa [State.setInvitation] using hj
      exact hred hst
    · exact hs.redeemed j r
        (by simpa [State.setInvitation, Function.update_of_ne hne] using hj) hst
  one := hs.one
  unknown j hj := by
    rcases eq_or_ne j i with rfl | hne
    · simp [State.setInvitation] at hj
    · exact hs.unknown j (by simpa [State.setInvitation, Function.update_of_ne hne] using hj)
  issued := hs.issued

theorem Inv.keeps (hs : Inv s) (hinv : s'.invitations = s.invitations)
    (htasks : s'.tasks = s.tasks) (hk : ∀ i, Keeps s s' i)
    (hissued : ∀ k x a, s'.issued k = some ⟨x, some a⟩ ↔
      ∃ p, s'.issuances a = some p ∧ p.verdict = .accepted ∧ p.ticket = k ∧ p.holder = x) :
    Inv s' where
  tasks t k ht := by
    obtain ⟨row, x, hrow, hst, hx, hn, hkn⟩ := hs.tasks t k (htasks ▸ ht)
    exact ⟨row, x, hinv ▸ hrow, hst, hx, hn, (hk _).knows hkn⟩
  alone t t' k k' ht ht' := hs.alone t t' k k' (htasks ▸ ht) (htasks ▸ ht')
  opened i row hi hst := by
    obtain ⟨hd, hn⟩ := hs.opened i row (hinv ▸ hi) hst
    exact ⟨(hk i).dead hd, hn⟩
  redeemed i row hi hst := by
    obtain ⟨x, a, p, hx, hr, hv, hn⟩ := hs.redeemed i row (hinv ▸ hi) hst
    obtain ⟨p', hr', hk', hv'⟩ := (hk i).relayed hr
    exact ⟨x, a, p', hx, hr', (hv' (by simp [hv])).trans hv, by rw [hn, hk']⟩
  one i := by
    obtain ⟨a, ha⟩ := hs.one i
    exact ⟨a, (hk i).only ha⟩
  unknown i hi := (hk i).dead (hs.unknown i (hinv ▸ hi))
  issued := hissued

theorem keeps_verdict (ha : s.issuances a = some p) (hv : p.verdict = .submitted)
    (v : Issuing.Submission) (i : Issuing.InvitationId) :
    Keeps s (s.setIssuance a { p with verdict := v }) i where
  forth b q hb hi := by
    rcases eq_or_ne b a with rfl | hne
    · obtain rfl := Option.some.inj (ha.symm.trans hb)
      exact ⟨{ p with verdict := v }, by simp [State.setIssuance], hi, rfl, rfl,
        fun h => absurd hv h⟩
    · exact ⟨q, by simpa [State.setIssuance, Function.update_of_ne hne] using hb, hi, rfl, rfl,
        fun _ => rfl⟩
  back b q hb hi := by
    rcases eq_or_ne b a with rfl | hne
    · obtain rfl : { p with verdict := v } = q := by simpa [State.setIssuance] using hb
      exact ⟨p, ha, hi, fun h => absurd hv h⟩
    · exact ⟨q, by simpa [State.setIssuance, Function.update_of_ne hne] using hb, hi, fun _ => rfl⟩

theorem keeps_fresh (ha : s.issuances a = none) (hne : p.invitation ≠ i) :
    Keeps s (s.setIssuance a p) i where
  forth b q hb hi := by
    have hba : b ≠ a := by
      rintro rfl
      simp [ha] at hb
    exact ⟨q, by simpa [State.setIssuance, Function.update_of_ne hba] using hb, hi, rfl, rfl,
      fun _ => rfl⟩
  back b q hb hi := by
    rcases eq_or_ne b a with rfl | hba
    · obtain rfl : p = q := by simpa [State.setIssuance] using hb
      exact absurd hi hne
    · exact ⟨q, by simpa [State.setIssuance, Function.update_of_ne hba] using hb, hi, fun _ => rfl⟩

theorem Inv.relayed (hs : Inv s) (ht : s.tasks t = some (.relay i x)) (ha : s.issuances a = none)
    (k : TicketId) :
    Inv ((s.setIssuance a ⟨i, x, k, .submitted⟩).put t (some (.ticket i a))) := by
  obtain ⟨row, y, hrow, hst, hy, hn, rfl, hd⟩ := hs.tasks t _ ht
  have hself : (s.setIssuance a ⟨i, x, k, .submitted⟩).issuances a =
      some ⟨i, x, k, .submitted⟩ := by
    simp [State.setIssuance]
  have hother : ∀ {b}, b ≠ a →
      (s.setIssuance a ⟨i, x, k, .submitted⟩).issuances b = s.issuances b := fun hne => by
    simp [State.setIssuance, Function.update_of_ne hne]
  have honly : (s.setIssuance a ⟨i, x, k, .submitted⟩).Only i a := by
    intro b q hb hi hne
    exact hd b q (hother hne ▸ hb) hi
  have hkeeps : ∀ {j}, j ≠ i → Keeps s (s.setIssuance a ⟨i, x, k, .submitted⟩) j :=
    fun hne => keeps_fresh ha (Ne.symm hne)
  constructor
  case tasks =>
    intro u l hu
    rcases eq_or_ne u t with rfl | hne
    · obtain rfl : Task.ticket i a = l := by simpa [State.put] using hu
      exact ⟨row, x, hrow, hst, hy, hn, _, hself, rfl, rfl, honly⟩
    · have hu' : s.tasks u = some l := by
        simpa [State.put, State.setIssuance, Function.update_of_ne hne] using hu
      obtain ⟨r, z, hr, hrst, hz, hrn, hkn⟩ := hs.tasks u l hu'
      exact ⟨r, z, hr, hrst, hz, hrn, (hkeeps (hs.others ht u l hne hu')).knows hkn⟩
  case alone =>
    exact State.Alone.put (show State.Alone (s.setIssuance a _) from hs.alone)
      fun u l hne hu => hs.others ht u l hne hu
  case opened =>
    intro j r hj hjst
    have hne : j ≠ i := by
      rintro rfl
      obtain rfl := Option.some.inj (hrow.symm.trans hj)
      simp [hst] at hjst
    obtain ⟨hjd, hjn⟩ := hs.opened j r hj hjst
    exact ⟨(hkeeps hne).dead hjd, hjn⟩
  case redeemed =>
    intro j r hj hjst
    have hne : j ≠ i := by
      rintro rfl
      obtain rfl := Option.some.inj (hrow.symm.trans hj)
      simp [hst] at hjst
    obtain ⟨z, b, q, hz, hr, hv, hk⟩ := hs.redeemed j r hj hjst
    obtain ⟨q', hr', hk', hv'⟩ := (hkeeps hne).relayed hr
    exact ⟨z, b, q', hz, hr', (hv' (by simp [hv])).trans hv, by rw [hk, hk']⟩
  case one =>
    intro j
    rcases eq_or_ne j i with rfl | hne
    · exact ⟨a, honly⟩
    · obtain ⟨b, hb⟩ := hs.one j
      exact ⟨b, (hkeeps hne).only hb⟩
  case unknown =>
    intro j hj
    have hne : j ≠ i := by
      rintro rfl
      cases hrow.symm.trans hj
    exact (hkeeps hne).dead (hs.unknown j hj)
  case issued =>
    intro k' z b
    refine (hs.issued k' z b).trans ?_
    rcases eq_or_ne b a with rfl | hne
    · constructor
      · rintro ⟨p, hp, -⟩
        simp [ha] at hp
      · rintro ⟨p, hp, hv, -⟩
        obtain rfl := Option.some.inj (hself.symm.trans hp)
        cases hv
    · rw [show ((s.setIssuance a ⟨i, x, k, .submitted⟩).put t (some (.ticket i a))).issuances b =
        s.issuances b from hother hne]

theorem Inv.lands (hs : Inv s) (ha : s.issuances a = some p) (hv : p.verdict = .submitted)
    (hfree : s.issued p.ticket = none) :
    Inv ((s.setIssuance a { p with verdict := .accepted }).issue p.ticket ⟨p.holder, some a⟩) := by
  refine hs.keeps rfl rfl (fun i => ?_) fun k x b => ?_
  · have h := keeps_verdict ha hv .accepted i
    exact ⟨h.forth, h.back⟩
  · rcases eq_or_ne b a with rfl | hba
    · have hno : ∀ k x, s.issued k ≠ some ⟨x, some b⟩ := by
        intro k x hk
        obtain ⟨q, hq, hacc, -⟩ := (hs.issued k x b).mp hk
        obtain rfl := Option.some.inj (ha.symm.trans hq)
        simp [hv] at hacc
      rcases eq_or_ne k p.ticket with rfl | hk
      · simp [State.issue, State.setIssuance]
      · simp [State.issue, State.setIssuance, Function.update_of_ne hk, hno, Ne.symm hk]
    · rcases eq_or_ne k p.ticket with rfl | hk
      · have hno : ∀ q, s.issuances b = some q → q.verdict = .accepted → q.ticket ≠ p.ticket := by
          intro q hq hacc hk
          have := (hs.issued p.ticket q.holder b).mpr ⟨q, hq, hacc, hk, rfl⟩
          simp [hfree] at this
        constructor
        · intro h
          simp [State.issue, Ne.symm hba] at h
        · rintro ⟨q, hq, hacc, hk, -⟩
          have hq' : s.issuances b = some q := by
            simpa [State.issue, State.setIssuance, Function.update_of_ne hba] using hq
          exact absurd hk (hno q hq' hacc)
      · simpa [State.issue, State.setIssuance, Function.update_of_ne hba, Function.update_of_ne hk]
          using hs.issued k x b

theorem Inv.refuses (hs : Inv s) (ha : s.issuances a = some p) (hv : p.verdict = .submitted) :
    Inv (s.setIssuance a { p with verdict := .refused }) := by
  refine hs.keeps rfl rfl (keeps_verdict ha hv .refused) fun k x b => ?_
  refine (hs.issued k x b).trans ?_
  rcases eq_or_ne b a with rfl | hba
  · simp [State.setIssuance, ha, hv]
  · simp [State.setIssuance, Function.update_of_ne hba]

theorem Inv.issuedElsewhere {k : TicketId} (hs : Inv s) (hk : s.issued k = none) (x : AccountId) :
    Inv (s.issue k ⟨x, none⟩) := by
  have hsame : (s.issue k ⟨x, none⟩).issuances = s.issuances := rfl
  refine hs.keeps rfl rfl (Keeps.of_eq hsame) fun k' y b => ?_
  refine Iff.trans ?_ (hs.issued k' y b)
  rcases eq_or_ne k' k with rfl | hne
  · simp [State.issue, hk]
  · simp [State.issue, Function.update_of_ne hne]

theorem Inv.claims (hs : Inv s) (ht : s.tasks t = none) (hi : s.invitations i = some row)
    (hopen : row.status = .opened) (x : AccountId) :
    Inv ((s.setInvitation i (row.claim x)).put t (some (.reserve i x))) := by
  obtain ⟨hd, hn⟩ := hs.opened i row hi hopen
  have hfree : ∀ u l, s.tasks u = some l → l.invitation ≠ i := by
    intro u l hu hl
    obtain ⟨r, y, hr, hst, -⟩ := hs.tasks u l hu
    obtain rfl := Option.some.inj (hi.symm.trans (hl ▸ hr))
    simp [hopen] at hst
  have h : Inv (s.setInvitation i (row.claim x)) :=
    hs.setInvitation hfree (by simp [Invitation.claim]) (by simp [Invitation.claim])
  refine { h with tasks := fun u l hu => ?_, alone := ?_ }
  · rcases eq_or_ne u t with rfl | hne
    · obtain rfl : Task.reserve i x = l := by simpa [State.put] using hu
      exact ⟨row.claim x, x, by simp [State.put, State.setInvitation, Task.invitation], rfl, rfl,
        hn, rfl, hd⟩
    · have hu' : s.tasks u = some l := by
        simpa [State.put, State.setInvitation, Function.update_of_ne hne] using hu
      obtain ⟨r, y, hr, hst, hy, hrn, hkn⟩ := h.tasks u l hu'
      exact ⟨r, y, hr, hst, hy, hrn, (Keeps.of_eq rfl _).knows hkn⟩
  · exact State.Alone.put (show State.Alone (s.setInvitation i _) from hs.alone)
      fun u l _ hu => hfree u l hu

theorem Inv.settled (hs : Inv s) (ht : s.tasks t = some (.settle i result))
    (hi : s.invitations i = some row) :
    Inv ((s.setInvitation i (row.settle result)).put t none) := by
  obtain ⟨r, x, hr, hst, hx, hn, hkn⟩ := hs.tasks t _ ht
  obtain rfl := Option.some.inj (hi.symm.trans hr)
  have h : Inv ((s.put t none).setInvitation i (row.settle result)) := by
    refine (hs.stop t).setInvitation (hs.free ht) ?_ ?_
    · cases result with
      | refusal => exact fun _ => ⟨hkn, hn⟩
      | issued | error => simp [Invitation.settle]
    · cases result with
      | issued k =>
        obtain ⟨a, p, hp, hacc, rfl⟩ := hkn
        exact fun _ => ⟨x, a, p, hx, hp, hacc, rfl⟩
      | refusal | error => simp [Invitation.settle]
  exact h

/-! ### Runs -/

theorem Inv.step (h : Inv s) (hs : Step s s') : Inv s' := by
  cases hs with
  | creates hi =>
    refine h.setInvitation ?_ (fun _ => ⟨h.unknown _ hi, rfl⟩) (by simp [created])
    intro t k ht hk
    obtain ⟨row, x, hrow, -⟩ := h.tasks t k ht
    cases hi.symm.trans (hk ▸ hrow)
  | claims x ht hi hopen => exact h.claims ht hi hopen x
  | reserveThrew thrown ht hthrown =>
    refine h.goto ht rfl fun x hk => ?_
    cases thrown with
    | issued k => exact absurd rfl (hthrown k)
    | refusal => exact hk.2
    | error => trivial
  | reserved ht => exact h.goto ht rfl fun _ => id
  | relayThrew thrown ht hthrown => exact h.goto ht rfl fun _ hk => ⟨hk.2, hthrown⟩
  | @undone _ i thrown ht =>
    refine h.goto ht rfl fun x hk => ?_
    cases thrown with
    | issued k => exact absurd rfl (hk.2 k)
    | refusal => exact hk.1
    | error => trivial
  | undoFailed ht => exact h.goto ht rfl fun _ _ => trivial
  | relayed k ht ha => exact h.relayed ht ha k
  | ticketed ht => exact h.goto ht rfl fun _ => id
  | ticketFailed ht => exact h.goto ht rfl fun _ _ => trivial
  | lands ha hv hfree => exact h.lands ha hv hfree
  | refuses ha hv => exact h.refuses ha hv
  | issuedElsewhere x hk => exact h.issuedElsewhere hk x
  | settledVerdict ht ha hv =>
    refine h.goto ht rfl fun x ⟨q, hq⟩ => ⟨q, hq, fun _ => ?_, by simp⟩
    obtain rfl := Option.some.inj (ha.symm.trans hq.1)
    exact hv
  | rejectedVerdict ht ha hv =>
    refine h.goto ht rfl fun x ⟨q, hq⟩ => ⟨q, hq, by simp, fun _ => ?_⟩
    obtain rfl := Option.some.inj (ha.symm.trans hq.1)
    exact hv
  | noVerdict ht => exact h.goto ht rfl fun x ⟨q, hq⟩ => ⟨q, hq, by simp, by simp⟩
  | @completed _ i a outcome p ht ha =>
    refine h.goto ht rfl fun x ⟨q, hq, hacc, href⟩ => ?_
    obtain rfl := Option.some.inj (ha.symm.trans hq.1)
    cases outcome with
    | issued => exact ⟨a, p, hq, hacc rfl, rfl⟩
    | failed => trivial
    | rejected =>
      intro b r hb hi
      rcases eq_or_ne b a with rfl | hne
      · obtain rfl := Option.some.inj (ha.symm.trans hb)
        exact href rfl
      · exact hq.2.2.2 b r hb hi hne
  | completeFailed ht => exact h.goto ht rfl fun _ _ => trivial
  | settled ht hi => exact h.settled ht hi
  | @stops t _ ht => exact h.stop t

theorem Inv.steps (h : Inv s) (hs : Steps s s') : Inv s' := by
  induction hs with
  | refl => exact h
  | step _ hstep ih => exact ih.step hstep

theorem Step.refused (hs : Step s s') (ha : s.issuances a = some p) (hv : p.verdict = .refused) :
    s'.issuances a = some p := by
  have hother : ∀ {b q}, b ≠ a → (s.setIssuance b q).issuances a = some p := fun hne => by
    simpa [State.setIssuance, Function.update_of_ne (Ne.symm hne)] using ha
  cases hs with
  | relayed k ht hb =>
    refine hother ?_
    rintro rfl
    cases hb.symm.trans ha
  | lands hb hsub | refuses hb hsub =>
    refine hother ?_
    rintro rfl
    obtain rfl := Option.some.inj (hb.symm.trans ha)
    simp [hv] at hsub
  | _ => exact ha

theorem Steps.refused (hs : Steps s s') (ha : s.issuances a = some p) (hv : p.verdict = .refused) :
    s'.issuances a = some p := by
  induction hs with
  | refl => exact ha
  | step _ hstep ih => exact hstep.refused ih hv

theorem Inv.never (h : Inv s) (hs : Steps s s') (ha : s.issuances a = some p)
    (hv : p.verdict = .refused) (k : TicketId) (x : AccountId) :
    s'.issued k ≠ some ⟨x, some a⟩ := by
  intro hk
  obtain ⟨q, hq, hacc, -⟩ := ((h.steps hs).issued k x a).mp hk
  obtain rfl := Option.some.inj ((hs.refused ha hv).symm.trans hq)
  simp [hv] at hacc

theorem Inv.once {k k' : TicketId} (h : Inv s) (hk : s.IssuedTo i k x)
    (hk' : s.IssuedTo i k' y) : k = k' := by
  obtain ⟨a, p, ha, hp, hi⟩ := hk
  obtain ⟨b, q, hb, hq, hi'⟩ := hk'
  obtain ⟨p', ha', hacc, hpk, -⟩ := (h.issued k x a).mp hi
  obtain ⟨q', hb', hacc', hqk, -⟩ := (h.issued k' y b).mp hi'
  obtain rfl := Option.some.inj (ha.symm.trans ha')
  obtain rfl := Option.some.inj (hb.symm.trans hb')
  obtain ⟨c, hc⟩ := h.one i
  have hac : a = c := by
    by_contra hne
    simpa [hacc] using hc a p ha hp hne
  have hbc : b = c := by
    by_contra hne
    simpa [hacc'] using hc b q hb hq hne
  obtain rfl : a = b := hac.trans hbc.symm
  obtain rfl := Option.some.inj (ha.symm.trans hb)
  exact hpk.symm.trans hqk

/-- In every run: one ticket at most is issued through an invitation; none is through an open one,
whose issuances never land and which no redemption has; and a redeemed one names the ticket that
the ledger issued to its holder. -/
theorem issues_once (h₀ : State.Initial s₀) (hs : Steps s₀ s) :
    (∀ i k k' x x', s.IssuedTo i k x → s.IssuedTo i k' x' → k = k') ∧
    (∀ i row, s.invitations i = some row → row.status = .opened →
      (∀ k x, ¬ s.IssuedTo i k x) ∧ (∀ t k, s.tasks t = some k → k.invitation ≠ i) ∧
      ∀ a p, s.issuances a = some p → p.invitation = i →
        ∀ s', Steps s s' → ∀ k x, s'.issued k ≠ some ⟨x, some a⟩) ∧
    ∀ i row, s.invitations i = some row → row.status = .redeemed →
      ∃ k x, row.ticket = some k ∧ row.holder = some x ∧ s.IssuedTo i k x := by
  have h := (Inv.initial h₀).steps hs
  refine ⟨fun i k k' x x' => h.once, fun i row hi hopen => ?_, fun i row hi hred => ?_⟩
  · obtain ⟨hd, -⟩ := h.opened i row hi hopen
    refine ⟨?_, ?_, fun a p ha hp s' hs' => h.never hs' ha (hd a p ha hp)⟩
    · rintro k x ⟨a, p, ha, hp, hk⟩
      exact h.never .refl ha (hd a p ha hp) k x hk
    · intro t k ht hk
      obtain ⟨r, x, hr, hst, -⟩ := h.tasks t k ht
      obtain rfl := Option.some.inj (hi.symm.trans (hk ▸ hr))
      simp [hopen] at hst
  · obtain ⟨x, a, p, hx, ⟨ha, hp, hpx, -⟩, hv, hk⟩ := h.redeemed i row hi hred
    exact ⟨p.ticket, x, hk, hx, a, p, ha, hp, (h.issued _ _ _).mpr ⟨p, ha, hv, rfl, hpx⟩⟩

def State.start : State where
  invitations _ := none
  issuances _ := none
  issued _ := none
  tasks _ := none

theorem State.start_initial : State.start.Initial :=
  ⟨fun _ => rfl, fun _ => rfl, fun _ _ h => (Option.some_ne_none _ h.symm).elim, fun _ => rfl⟩

/-- An invitation is claimed, and its ticket issued to the guest. -/
theorem issues_once_redeemed : ∃ s, Steps State.start s ∧
    (∃ row, s.invitations 1 = some row ∧ row.status = .redeemed) ∧
    ∃ k x, s.IssuedTo 1 k x ∧ ∀ k' x', s.IssuedTo 1 k' x' → k' = k := by
  have h₁ : Steps State.start _ := Steps.refl.step (Step.creates (i := 1) rfl)
  have h₂ := h₁.step (Step.claims (t := 0) (i := 1) 5 rfl rfl rfl)
  have h₃ := h₂.step (Step.reserved (t := 0) rfl)
  have h₄ := h₃.step (Step.relayed (t := 0) (a := 3) 9 rfl rfl)
  have h₅ := h₄.step (Step.lands (a := 3) rfl rfl rfl)
  have h₆ := h₅.step (Step.ticketed (t := 0) rfl)
  have h₇ := h₆.step (Step.settledVerdict (t := 0) rfl rfl rfl)
  have h₈ := h₇.step (Step.completed (t := 0) rfl rfl)
  have h₉ := h₈.step (Step.settled (t := 0) (i := 1) rfl rfl)
  have hone := issues_once State.start_initial h₉
  obtain ⟨k, x, -, -, hk⟩ := hone.2.2 1 _ rfl rfl
  exact ⟨_, h₉, ⟨_, rfl, rfl⟩, k, x, hk, fun k' x' hk' => hone.1 1 k' k x' x hk' hk⟩

end Kippu.Redeeming
