import Kippu.Enrolling.Runs

/-!
# Deadlocks of enrolment and revocation

Whoever waits waits for a transaction nearer its end, but for one case: a revocation that
waits for a code whose redemption waits for the owner's row. Two that meet so are
deadlocked, and there is no other deadlock.
-/

namespace Kippu.Enrolling

open Conc.Locks

variable {meet : Prop} {s s' : State} {c d : Call} {k : CodeId} {o o' : Owner} {w : Work}
variable {p q : Phase} {r : Row} {m n : LockMode} {todo voided : CodeId → Bool}
variable {at_ : Option CodeId}

def State.Owns (s : State) (o : Owner) (k : CodeId) : Prop :=
  ∃ x, s.codes k = some x ∧ x.owner = o

def Phase.Names (o : Owner) (k : CodeId) : Phase → Prop
  | .redeeming k' o' | .redeemed k' o' | .linked k' o' | .enrolled k' o' => k' = k ∧ o' = o
  | .voiding _ o' todo at_ voided =>
    o' = o ∧ (todo k = true ∨ at_ = some k ∨ voided k = true)
  | _ => False

structure Inv (s : State) : Prop where
  compatible : s.locks.Compatible
  named : ∀ {c o k}, (s.phase c).Names o k → s.Owns o k

-- ---------------------------------------------------------------------------
-- Locks
-- ---------------------------------------------------------------------------

theorem holds_redeemed :
    (Phase.redeemed k o).holds r = some m ↔ r = .code k ∧ m = .noKeyUpdate := by
  cases r <;> simp [Phase.holds, eq_comm]

theorem holds_linked : (Phase.linked k o).holds r = some m ↔
    r = .code k ∧ m = .noKeyUpdate ∨ r = .owner o ∧ m = .keyShare := by
  cases r <;> simp [Phase.holds, eq_comm]

theorem holds_enrolled : (Phase.enrolled k o).holds r = some m ↔
    (r = .code k ∨ r = .owner o) ∧ m = .noKeyUpdate := by
  cases r <;> simp [Phase.holds, eq_comm]

theorem holds_owned : (Phase.owned w o).holds r = some m ↔ r = .owner o ∧ m = .update := by
  cases r <;> simp [Phase.holds, eq_comm]

theorem holds_voiding : (Phase.voiding w o todo at_ voided).holds r = some m ↔
    r = .owner o ∧ m = .update ∨ ∃ k, r = .code k ∧ voided k = true ∧ m = .noKeyUpdate := by
  cases r with
  | owner o' => simp [Phase.holds, @eq_comm _ m]
  | code k => simp [Phase.holds, @eq_comm _ m]

-- ---------------------------------------------------------------------------
-- Steps
-- ---------------------------------------------------------------------------

theorem goto_phase (s : State) (c : Call) (p : Phase) : (s.goto c p).phase c = p :=
  Function.update_self ..

theorem goto_phase_ne (s : State) (p : Phase) (hd : d ≠ c) : (s.goto c p).phase d = s.phase d :=
  Function.update_of_ne hd ..

theorem outstanding_owns (h : s.outstanding o k = true) : s.Owns o k := by
  obtain ⟨x, hx, hp⟩ := (Option.any_eq_true _ _).mp h
  simp only [Bool.and_eq_true, decide_eq_true_eq] at hp
  exact ⟨x, hx, hp.1⟩

theorem owns_goto (h : s.Owns o k) : (s.goto c p).Owns o k := h

theorem owns_spend {picked : CodeId → Bool} (h : s.Owns o k) : (s.spend picked).Owns o k := by
  obtain ⟨x, hx, rfl⟩ := h
  refine ⟨if picked k then { x with spent := true } else x, by simp [State.spend, hx], ?_⟩
  split <;> rfl

theorem owns_issue (h : s.Owns o k) (hfree : s.codes k' = none) : (s.issue k' o').Owns o k := by
  obtain ⟨x, hx, rfl⟩ := h
  have hne : k ≠ k' := by
    rintro rfl
    rw [hfree] at hx
    cases hx
  exact ⟨x, by simpa [State.issue, hne] using hx, rfl⟩

theorem Inv.goes (hi : Inv s) (hphase : s'.phase = Function.update s.phase c p)
    (howns : ∀ o k, s.Owns o k → s'.Owns o k)
    (hholds : ∀ r m, p.holds r = some m →
      (s.phase c).holds r = some m ∨ s.locks.Grants c r m)
    (hnamed : ∀ o k, p.Names o k → s.Owns o k) : Inv s' where
  compatible := by
    refine hi.compatible.change (t := c) (fun d hd => ?_) fun r m hm => ?_
    · funext r
      simp [State.locks, hphase, Function.update_of_ne hd]
    · have hp : p.holds r = some m := by simpa [State.locks, hphase] using hm
      exact hholds r m hp
  named := by
    intro d o k h
    rw [hphase] at h
    by_cases hd : d = c
    · subst hd
      rw [Function.update_self] at h
      exact howns o k (hnamed o k h)
    · rw [Function.update_of_ne hd] at h
      exact howns o k (hi.named h)

theorem Inv.goesOn (hi : Inv s) (hc : s.phase c = q)
    (hholds : ∀ r m, p.holds r = some m → q.holds r = some m ∨ s.locks.Grants c r m)
    (hnamed : ∀ o k, p.Names o k → q.Names o k) : Inv (s.goto c p) := by
  subst hc
  exact hi.goes rfl (fun _ _ h => h) hholds fun o k h => hi.named (hnamed o k h)

theorem Inv.leaves (hi : Inv s) (hphase : s'.phase = Function.update s.phase c .out)
    (howns : ∀ o k, s.Owns o k → s'.Owns o k) : Inv s' :=
  hi.goes hphase howns (fun r m h => by simp [Phase.holds] at h) fun o k h => h.elim

theorem Inv.step (hi : Inv s) (h : Step meet s s') : Inv s' := by
  have hself : ∀ o k, s.Owns o k → s.Owns o k := fun _ _ h => h
  cases h with
  | asks c k hout hcode =>
    refine hi.goes rfl hself (fun r m h => by simp [Phase.holds] at h) fun o k h => ?_
    obtain ⟨rfl, rfl⟩ := h
    exact ⟨_, hcode, rfl⟩
  | redeems c hc hgrants hout =>
    refine hi.goesOn hc (fun r m h => ?_) fun o k h => h
    obtain ⟨rfl, rfl⟩ := holds_redeemed.mp h
    exact .inr hgrants
  | rejected c => exact hi.leaves rfl hself
  | links c hc hgrants =>
    refine hi.goesOn hc (fun r m h => ?_) fun o k h => h
    rcases holds_linked.mp h with hcode | ⟨rfl, rfl⟩
    · exact .inl (holds_redeemed.mpr hcode)
    · exact .inr hgrants
  | enrols c i hc hgrants =>
    refine hi.goesOn hc (fun r m h => ?_) fun o k h => h
    obtain ⟨rfl | rfl, rfl⟩ := holds_enrolled.mp h
    · exact .inl (holds_linked.mpr (.inl ⟨rfl, rfl⟩))
    · exact .inr hgrants
  | signsIn c i hc => exact hi.leaves rfl fun _ _ h => owns_goto (owns_spend h)
  | enrolsIn c hc => exact hi.leaves rfl fun _ _ h => owns_goto (owns_spend h)
  | begins c w o =>
    exact hi.goes rfl hself (fun r m h => by simp [Phase.holds] at h) fun o k h => h.elim
  | owns c hc hgrants =>
    refine hi.goesOn hc (fun r m h => ?_) fun o k h => h.elim
    obtain ⟨rfl, rfl⟩ := holds_owned.mp h
    exact .inr hgrants
  | issues c k hc hfree => exact hi.leaves rfl fun _ _ h => owns_goto (owns_issue h hfree)
  | selects c hc =>
    refine hi.goes rfl hself (fun r m h => .inl ?_) fun o k h => ?_
    · rw [hc]
      rcases holds_voiding.mp h with howner | ⟨k, -, hnone, -⟩
      · exact holds_owned.mpr howner
      · cases hnone
    · obtain ⟨rfl, hout | hat | hvoided⟩ := h
      · exact outstanding_owns hout
      · cases hat
      · cases hvoided
  | looks c k hc htodo =>
    refine hi.goesOn hc (fun r m h => .inl (holds_voiding.mpr (holds_voiding.mp h))) ?_
    rintro o j ⟨rfl, hrest | hat | hvoided⟩
    · refine ⟨rfl, .inl ?_⟩
      by_cases hj : j = k
      · subst hj
        exact htodo
      · simpa [hj] using hrest
    · cases hat
      exact ⟨rfl, .inl htodo⟩
    · exact ⟨rfl, .inr (.inr hvoided)⟩
  | voids c hc hgrants =>
    rename_i k _ _
    refine hi.goesOn hc (fun r m h => ?_) ?_
    · rcases holds_voiding.mp h with howner | ⟨j, rfl, hvoided, rfl⟩
      · exact .inl (holds_voiding.mpr (.inl howner))
      · by_cases hj : j = k
        · subst hj
          exact .inr hgrants
        · rw [Function.update_of_ne hj] at hvoided
          exact .inl (holds_voiding.mpr (.inr ⟨j, rfl, hvoided, rfl⟩))
    · rintro o j ⟨rfl, hrest | hat | hvoided⟩
      · exact ⟨rfl, .inl hrest⟩
      · cases hat
      · by_cases hj : j = k
        · subst hj
          exact ⟨rfl, .inr (.inl rfl)⟩
        · rw [Function.update_of_ne hj] at hvoided
          exact ⟨rfl, .inr (.inr hvoided)⟩
  | skips c hc =>
    refine hi.goesOn hc (fun r m h => .inl (holds_voiding.mpr (holds_voiding.mp h))) ?_
    rintro o j ⟨rfl, hrest | hat | hvoided⟩
    · exact ⟨rfl, .inl hrest⟩
    · cases hat
    · exact ⟨rfl, .inr (.inr hvoided)⟩
  | revokes c => exact hi.leaves rfl fun _ _ h => owns_goto (owns_spend h)
  | reissues c k hc htodo hissues hfree =>
    refine hi.leaves rfl fun _ _ h => owns_goto (owns_issue (owns_spend h) ?_)
    simp [State.spend, hfree]
  | stops c => exact hi.leaves rfl hself

theorem State.Initial.inv (h : s.Initial) : Inv s where
  compatible t u r m _ hm := by
    simp [State.locks, h t, Phase.holds] at hm
  named := fun {c o k} hn => by
    rw [h c] at hn
    exact hn.elim

theorem Inv.steps (hi : Inv s) (h : Steps meet s s') : Inv s' := by
  induction h with
  | refl => exact hi
  | step _ hstep ih => exact ih.step hstep

-- ---------------------------------------------------------------------------
-- Who waits for whom
-- ---------------------------------------------------------------------------

/-- How far a transaction is from its end, if revocations do not wait for codes. -/
def Phase.rank : Phase → ℕ
  | .redeeming .. | .owning .. => 2
  | .redeemed .. | .linked .. => 1
  | _ => 0

theorem rank_of_holds (h : p.holds r = some m) : p.rank ≤ 1 := by
  cases p <;> simp [Phase.holds, Phase.rank] at h ⊢

theorem holds_owner (h : p.holds (.owner o) = some m) :
    (m = .keyShare ∧ ∃ k, p = .linked k o) ∨ (m = .noKeyUpdate ∧ ∃ k, p = .enrolled k o) ∨
      m = .update ∧ p.rank = 0 := by
  cases p with
  | redeemed k o' =>
    obtain ⟨hr, -⟩ := holds_redeemed.mp h
    cases hr
  | linked k o' =>
    rcases holds_linked.mp h with ⟨hr, -⟩ | ⟨hr, rfl⟩
    · cases hr
    · cases hr
      exact .inl ⟨rfl, k, rfl⟩
  | enrolled k o' =>
    obtain ⟨hr | hr, rfl⟩ := holds_enrolled.mp h
    · cases hr
    · cases hr
      exact .inr (.inl ⟨rfl, k, rfl⟩)
  | owned w o' =>
    obtain ⟨-, rfl⟩ := holds_owned.mp h
    exact .inr (.inr ⟨rfl, rfl⟩)
  | voiding w o' todo at_ voided =>
    rcases holds_voiding.mp h with ⟨-, rfl⟩ | ⟨k, hr, -⟩
    · exact .inr (.inr ⟨rfl, rfl⟩)
    · cases hr
  | _ => simp [Phase.holds] at h

theorem holds_code (h : p.holds (.code k) = some m) :
    (∃ o, p = .redeemed k o) ∨
      ∃ o, p.Names o k ∧ ∃ n, p.holds (.owner o) = some n := by
  cases p with
  | redeemed k' o =>
    obtain ⟨hr, -⟩ := holds_redeemed.mp h
    cases hr
    exact .inl ⟨o, rfl⟩
  | linked k' o =>
    rcases holds_linked.mp h with ⟨hr, -⟩ | ⟨hr, -⟩
    · cases hr
      exact .inr ⟨o, ⟨rfl, rfl⟩, _, holds_linked.mpr (.inr ⟨rfl, rfl⟩)⟩
    · cases hr
  | enrolled k' o =>
    obtain ⟨hr | hr, -⟩ := holds_enrolled.mp h
    · cases hr
      exact .inr ⟨o, ⟨rfl, rfl⟩, _, holds_enrolled.mpr ⟨.inr rfl, rfl⟩⟩
    · cases hr
  | owned w o =>
    obtain ⟨hr, -⟩ := holds_owned.mp h
    cases hr
  | voiding w o todo at_ voided =>
    rcases holds_voiding.mp h with ⟨hr, -⟩ | ⟨k', hr, hvoided, -⟩
    · cases hr
    · cases hr
      exact .inr ⟨o, ⟨rfl, .inr (.inr hvoided)⟩, _, holds_voiding.mpr (.inl ⟨rfl, rfl⟩)⟩
  | _ => simp [Phase.holds] at h

/-- Whoever waits waits for one nearer its end, unless a revocation and a redemption clash. -/
theorem Inv.rank_lt (hi : Inv s) (hclash : ¬ s.Clash) (h : s.locks.Waits c d) :
    (s.phase d).rank < (s.phase c).rank := by
  obtain ⟨r, m, hwants, hne, n, hd, hconflict⟩ := h
  change (s.phase c).wants = some (r, m) at hwants
  change (s.phase d).holds r = some n at hd
  have hle := rank_of_holds hd
  cases hc : s.phase c with
  | redeeming k o => exact Nat.lt_succ_of_le hle
  | owning w o => exact Nat.lt_succ_of_le hle
  | redeemed k o =>
    rw [hc] at hwants
    cases hwants
    -- Only who has the owner's row locked for update is waited for.
    rcases holds_owner hd with ⟨rfl, -⟩ | ⟨rfl, -⟩ | ⟨-, hrank⟩
    · cases hconflict
    · cases hconflict
    · rw [hrank]
      exact Nat.zero_lt_one
  | linked k o =>
    rw [hc] at hwants
    cases o with
    | operator i => cases hwants
    | reviewer i =>
      cases hwants
      rcases holds_owner hd with ⟨rfl, -⟩ | ⟨-, k', hk'⟩ | ⟨-, hrank⟩
      · cases hconflict
      · simp [hk', Phase.rank]
      · rw [hrank]
        exact Nat.zero_lt_one
  | voiding w o todo at_ voided =>
    rw [hc] at hwants
    cases at_ with
    | none => cases hwants
    | some k =>
      cases hwants
      have howner : s.Owns o k := hi.named (c := c) (by rw [hc]; exact ⟨rfl, .inr (.inl rfl)⟩)
      have hsame : ∀ {o'}, s.Owns o' k → o' = o := by
        rintro o' ⟨x, hx, rfl⟩
        obtain ⟨y, hy, rfl⟩ := howner
        rw [hx] at hy
        cases hy
        rfl
      rcases holds_code hd with ⟨o', hredeemed⟩ | ⟨o', hnames, n', hown⟩
      · have ho : o' = o := hsame (hi.named (c := d) (by rw [hredeemed]; exact ⟨rfl, rfl⟩))
        subst ho
        exact absurd ⟨c, d, w, o', k, todo, voided, hc, hredeemed⟩ hclash
      · -- Nobody else has a lock of the owner's row.
        have ho : o' = o := hsame (hi.named hnames)
        subst ho
        refine absurd ⟨n', hown, by simp⟩
          (hi.compatible c d (.owner o') .update (Ne.symm hne) ?_)
        change (s.phase c).holds (.owner o') = some .update
        simp [hc, Phase.holds]
  | _ =>
    rw [hc] at hwants
    cases hwants

theorem Clash.deadlocked (h : s.Clash) : s.locks.Deadlocked := by
  obtain ⟨c, d, w, o, k, todo, voided, hc, hd⟩ := h
  have hne : c ≠ d := by
    rintro rfl
    rw [hc] at hd
    cases hd
  refine Locking.deadlocked_of_mutual (t := c) (u := d) ?_ ?_
  · refine ⟨.code k, .noKeyUpdate, ?_, Ne.symm hne, .noKeyUpdate, ?_, rfl⟩
    · change (s.phase c).wants = _
      rw [hc]
      rfl
    · change (s.phase d).holds _ = _
      simp [hd, Phase.holds]
  · refine ⟨.owner o, .keyShare, ?_, hne, .update, ?_, rfl⟩
    · change (s.phase d).wants = _
      rw [hd]
      rfl
    · change (s.phase c).holds _ = _
      simp [hc, Phase.holds]

theorem Inv.deadlocked_iff (hi : Inv s) : s.locks.Deadlocked ↔ s.Clash := by
  refine ⟨fun h => ?_, Clash.deadlocked⟩
  by_contra hclash
  exact Locking.not_deadlocked_of_rank (fun c => (s.phase c).rank)
    (fun c d hw => hi.rank_lt hclash hw) h

-- ---------------------------------------------------------------------------
-- Runs in which they do not meet
-- ---------------------------------------------------------------------------

/-- No revocation and redemption of one owner have met. -/
def State.Apart (s : State) : Prop := ∀ c d o, s.Revoking c o → ¬ s.Redeeming d o

theorem State.Apart.not_clash (h : s.Apart) : ¬ s.Clash := by
  rintro ⟨c, d, w, o, k, todo, voided, hc, hd⟩
  exact h c d o (.inr ⟨w, todo, some k, voided, hc⟩) ⟨k, hd⟩

theorem State.Apart.goes (h : s.Apart) (hphase : s'.phase = Function.update s.phase c p)
    (hredeemed : ∀ k o, p ≠ .redeemed k o)
    (hrevoking : ∀ o, s'.Revoking c o → s.Revoking c o) : s'.Apart := by
  intro a b o ha hb
  have hb' : s.Redeeming b o := by
    obtain ⟨k, hk⟩ := hb
    rw [hphase] at hk
    by_cases hbc : b = c
    · subst hbc
      rw [Function.update_self] at hk
      exact absurd hk (hredeemed k o)
    · rw [Function.update_of_ne hbc] at hk
      exact ⟨k, hk⟩
  refine h a b o ?_ hb'
  by_cases hac : a = c
  · subst hac
    exact hrevoking o ha
  · simpa [State.Revoking, hphase, Function.update_of_ne hac] using ha

theorem goto_redeeming (h : (s.goto c p).Redeeming d o) :
    d = c ∧ (∃ k, p = .redeemed k o) ∨ s.Redeeming d o := by
  obtain ⟨k, hk⟩ := h
  by_cases hd : d = c
  · subst hd
    rw [goto_phase] at hk
    exact .inl ⟨rfl, k, hk⟩
  · rw [goto_phase_ne s p hd] at hk
    exact .inr ⟨k, hk⟩

theorem goto_revoking (h : (s.goto c p).Revoking d o) :
    d = c ∧ ((∃ w, w.voids = true ∧ p = .owned w o) ∨
      ∃ w todo at_ voided, p = .voiding w o todo at_ voided) ∨ s.Revoking d o := by
  by_cases hd : d = c
  · subst hd
    simp only [State.Revoking, goto_phase] at h
    exact .inl ⟨rfl, h⟩
  · simp only [State.Revoking, goto_phase_ne s p hd] at h
    exact .inr h

theorem State.Apart.step (h : s.Apart) (hstep : Step False s s') : s'.Apart := by
  have hleaves : ∀ {t : State} {c p}, t.phase = Function.update s.phase c p →
      (∀ k o, p ≠ .redeemed k o) → (∀ w o, p ≠ .owned w o) →
      (∀ w o todo at_ voided, p ≠ .voiding w o todo at_ voided) → t.Apart := by
    intro t c p hphase hredeemed howned hvoiding
    refine h.goes hphase hredeemed fun o hrevoking => ?_
    simp only [State.Revoking, hphase, Function.update_self] at hrevoking
    rcases hrevoking with ⟨w, -, hp⟩ | ⟨w, todo, at_, voided, hp⟩
    · exact absurd hp (howned w o)
    · exact absurd hp (hvoiding w o todo at_ voided)
  have hvoids : ∀ {c w o todo at_ voided}, s.Revoking c o →
      (s.goto c (.voiding w o todo at_ voided)).Apart := by
    intro c w o todo at_ voided hold
    refine h.goes rfl nofun fun o' hrevoking => ?_
    simp only [State.Revoking, goto_phase] at hrevoking
    rcases hrevoking with ⟨w', -, hp⟩ | ⟨w', todo', at', voided', hp⟩
    · cases hp
    · cases hp
      exact hold
  cases hstep with
  | asks | rejected | links | enrols | begins | stops => exact hleaves rfl nofun nofun nofun
  | signsIn | enrolsIn | issues | revokes | reissues => exact hleaves rfl nofun nofun nofun
  | redeems c hc hgrants hout hmeet =>
    intro a b o' ha hb
    rcases goto_revoking ha with ⟨-, ⟨w, -, hp⟩ | ⟨w, todo, at_, voided, hp⟩⟩ | hrevoking
    · cases hp
    · cases hp
    rcases goto_redeeming hb with ⟨-, k', hp⟩ | hredeeming
    · cases hp
      exact hmeet a hrevoking
    · exact h a b o' hrevoking hredeeming
  | owns c hc hgrants hmeet =>
    intro a b o' ha hb
    rcases goto_redeeming hb with ⟨-, k', hp⟩ | hredeeming
    · cases hp
    rcases goto_revoking ha with ⟨-, ⟨w, hvoid, hp⟩ | ⟨w, todo, at_, voided, hp⟩⟩ | hrevoking
    · cases hp
      exact hmeet hvoid b hredeeming
    · cases hp
    · exact h a b o' hrevoking hredeeming
  | selects c hc hvoid => exact hvoids (.inl ⟨_, hvoid, hc⟩)
  | looks c k hc => exact hvoids (.inr ⟨_, _, _, _, hc⟩)
  | voids c hc => exact hvoids (.inr ⟨_, _, _, _, hc⟩)
  | skips c hc => exact hvoids (.inr ⟨_, _, _, _, hc⟩)

theorem State.Apart.steps (h : s.Apart) (hsteps : Steps False s s') : s'.Apart := by
  induction hsteps with
  | refl => exact h
  | step _ hstep ih => exact ih.step hstep

theorem State.Initial.apart (h : s.Initial) : s.Apart := by
  rintro c d o - ⟨k, hk⟩
  rw [h d] at hk
  cases hk

/-- Where no revocation of an owner and redemption of its codes meet, nobody is deadlocked; and
wherever anybody is, two of them that met wait for each other. -/
theorem never_deadlocked (h₀ : s₀.Initial) :
    (∀ s, Steps False s₀ s → ¬ s.locks.Deadlocked) ∧
      ∀ s, Steps True s₀ s → (s.locks.Deadlocked ↔ s.Clash) := by
  refine ⟨fun s h hdead => ?_, fun s h => (h₀.inv.steps h).deadlocked_iff⟩
  exact (h₀.apart.steps h).not_clash ((h₀.inv.steps h).deadlocked_iff.mp hdead)

-- ---------------------------------------------------------------------------
-- A code redeemed at the moment of the revocation
-- ---------------------------------------------------------------------------

def beginning : State where
  codes k := if k = 1 then some ⟨.operator 1, false⟩ else
    if k = 2 then some ⟨.operator 2, false⟩ else
    if k = 3 then some ⟨.reviewer 1, false⟩ else none
  phase _ := .out

theorem beginning_initial : beginning.Initial := fun _ => rfl

theorem grants_of_free (h : ∀ d, d ≠ c → (s.phase d).holds r = none) : s.locks.Grants c r m := by
  rintro d hd ⟨n, hn, -⟩
  change (s.phase d).holds r = some n at hn
  rw [h d hd] at hn
  cases hn

theorem redeemed_then_owning (meet : Prop) (hcode : beginning.codes k = some ⟨o, false⟩)
    (hw : w.isFor o' = true) : ∃ s, Steps meet beginning s ∧ s.codes = beginning.codes ∧
      s.phase 0 = .redeemed k o ∧ s.phase 1 = .owning w o' ∧
      ∀ d, d ≠ 0 → d ≠ 1 → s.phase d = .out := by
  have hasked : Steps meet beginning _ := Steps.refl.step (.asks 0 k rfl hcode)
  have hredeemed := hasked.step (.redeems 0 rfl ?_ ?_ ?_)
  · have hbegun := hredeemed.step (.begins 1 w o' rfl hw)
    refine ⟨_, hbegun, rfl, rfl, rfl, fun d h₀ h₁ => ?_⟩
    simp [State.goto, beginning, h₀, h₁]
  · refine grants_of_free fun d hd => ?_
    simp [State.goto, beginning, hd, Phase.holds]
  · show beginning.outstanding o k = true
    simp [State.outstanding, hcode]
  · rintro d (⟨w, -, hp⟩ | ⟨w, todo, at_, voided, hp⟩)
    · by_cases hd : d = 0
      · simp [State.goto, hd] at hp
      · simp [State.goto, beginning, hd] at hp
    · by_cases hd : d = 0
      · simp [State.goto, hd] at hp
      · simp [State.goto, beginning, hd] at hp

theorem owner_free (hredeemed : s.phase 0 = .redeemed k o)
    (hout : ∀ d, d ≠ 0 → d ≠ 1 → s.phase d = .out) :
    s.locks.Grants 1 (.owner o') .update := by
  refine grants_of_free fun d hd => ?_
  by_cases h₀ : d = 0
  · subst h₀
    simp [hredeemed, Phase.holds]
  · simp [hout d h₀ hd, Phase.holds]

/-- A redemption of an operator's code, while another's sessions are revoked. -/
theorem never_deadlocked_two : ∃ s, Steps False beginning s ∧
    s.phase 0 = .redeemed 1 (.operator 1) ∧ s.phase 1 = .owned .revoke (.operator 2) ∧
    ¬ s.locks.Deadlocked := by
  have hcode : beginning.codes 1 = some ⟨.operator 1, false⟩ := rfl
  have hrevokes : Work.revoke.isFor (.operator 2) = true := rfl
  obtain ⟨s, hs, -, hredeemed, howning, hout⟩ := redeemed_then_owning False hcode hrevokes
  have howned := hs.step (.owns 1 howning (owner_free hredeemed hout) fun _ d ⟨k, hk⟩ => ?_)
  · refine ⟨_, howned, ?_, goto_phase .., (never_deadlocked beginning_initial).1 _ howned⟩
    rw [goto_phase_ne s _ (by decide)]
    exact hredeemed
  · by_cases h₀ : d = 0
    · subst h₀
      rw [hredeemed] at hk
      cases hk
    · by_cases h₁ : d = 1
      · subst h₁
        rw [howning] at hk
        cases hk
      · rw [hout d h₀ h₁] at hk
        cases hk

/-- Whatever revokes an owner's codes is deadlocked with a redemption of one of them that it met. -/
theorem deadlocked_of_meeting (hcode : beginning.codes k = some ⟨o, false⟩)
    (hw : w.isFor o = true) (hvoids : w.voids = true) :
    ∃ s todo voided, Steps True beginning s ∧ s.phase 0 = .redeemed k o ∧
      s.phase 1 = .voiding w o todo (some k) voided ∧ s.locks.Deadlocked := by
  obtain ⟨s, hs, hcodes, hredeemed, howning, hout⟩ := redeemed_then_owning True hcode hw
  have howned := hs.step (.owns 1 howning (owner_free hredeemed hout) fun _ _ _ => trivial)
  have hselected := howned.step (.selects 1 (goto_phase ..) hvoids)
  have houtstanding : (s.goto 1 (.owned w o)).outstanding o k = true := by
    simp [State.outstanding, State.goto, hcodes, hcode]
  have hlooked := hselected.step (.looks 1 k (goto_phase ..) houtstanding)
  have hzero : hlooked.last.phase 0 = .redeemed k o := by
    simp [Steps.last, State.goto, hredeemed]
  have hone := goto_phase hselected.last 1 (.voiding w o
    (Function.update (howned.last.outstanding o) k false) (some k) fun _ => false)
  exact ⟨_, _, _, hlooked, hzero, hone,
    Clash.deadlocked ⟨1, 0, w, o, k, _, _, hone, hzero⟩⟩

/-- An operator's sessions are revoked, or a reviewer is disabled or given a new code, at the moment
one of their codes is redeemed: each transaction waits for the other. -/
theorem revocation_deadlocks :
    (∃ s todo voided, Steps True beginning s ∧ s.phase 0 = .redeemed 1 (.operator 1) ∧
      s.phase 1 = .voiding .revoke (.operator 1) todo (some 1) voided ∧ s.locks.Deadlocked) ∧
    (∃ s todo voided, Steps True beginning s ∧ s.phase 0 = .redeemed 3 (.reviewer 1) ∧
      s.phase 1 = .voiding .disable (.reviewer 1) todo (some 3) voided ∧ s.locks.Deadlocked) ∧
    ∃ s todo voided, Steps True beginning s ∧ s.phase 0 = .redeemed 3 (.reviewer 1) ∧
      s.phase 1 = .voiding .reissue (.reviewer 1) todo (some 3) voided ∧ s.locks.Deadlocked :=
  ⟨deadlocked_of_meeting rfl rfl rfl, deadlocked_of_meeting rfl rfl rfl,
    deadlocked_of_meeting rfl rfl rfl⟩

end Kippu.Enrolling
