import Kippu.Operators.Runs

/-!
# Revocation is final

When the statement that voids an operator's codes has run, each code there is redeemed,
and its session is there for the next statement to end, or is locked by the revocation
and will be void. So a device that redeems one of them either committed before or finds
it void.
-/

namespace Kippu.Operators

open Conc

variable {s s' s'' s₀ : State} {c d : Call} {o : OperatorId} {k : CodeId} {i : SessionId}
  {t : Task} {x y : Session}

def Session.Ended (x : Session) (at_ : Time) : Prop := x.revoked = true ∨ x.expiresAt ≤ at_

theorem Session.Ended.mono (h : x.Ended m) (hmn : m ≤ n) : x.Ended n :=
  h.imp_right fun hm => hm.trans hmn

def State.Ok (s : State) (c : Call) : Task → Prop
  | .other => True
  | .revoking at_ => at_ ≤ s.clock
  | .swept at_ picked => at_ ≤ s.clock ∧ ∃ o todo, s.codes.phase c = .voiding o todo ∧
      (∀ k, todo k = false) ∧
      ∀ i x, s.sessions i = some x → x.operator = o → x.Ended at_ ∨ picked i = true

structure Inv (s : State) : Prop where
  codes : Codes.Inv s.codes
  opened : ∀ i x, s.sessions i = some x → s.codes.Closed x.operator x.code
  once : ∀ i j x y, s.sessions i = some x → s.sessions j = some y → x.code = y.code → i = j
  tasks : ∀ c, s.Ok c (s.task c)

-- ---------------------------------------------------------------------------
-- What a step does
-- ---------------------------------------------------------------------------

def State.Had (s : State) (i : SessionId) (y : Session) : Prop :=
  ∃ x, s.sessions i = some x ∧ y = { x with revoked := y.revoked } ∧
    (x.revoked = true → y.revoked = true)

/-- A session is opened by a call that has an open code of its operator locked. -/
def State.Opens (s : State) (y : Session) : Prop :=
  ∃ c x, s.task c = .other ∧ s.codes.codeLock y.code = some c ∧
    s.codes.codes y.code = some x ∧ x.owner = y.operator ∧ x.open = true

structure Effect (s s' : State) : Prop where
  clock : s.clock ≤ s'.clock
  codes : Codes.Inv s'.codes
  closed : ∀ o k, s.codes.Closed o k → s'.codes.Closed o k
  sessions : ∀ i y, s'.sessions i = some y →
    s.Had i y ∨ s.Opens y ∧ s'.codes.Closed y.operator y.code
  one : ∀ i j y z, s'.sessions i = some y → s'.sessions j = some z → s.Opens y → s.Opens z → i = j

theorem Had.of_eq (h : s'.sessions = s.sessions) (hi : s'.sessions i = some y) : s.Had i y :=
  ⟨y, h ▸ hi, rfl, id⟩

theorem Inv.not_opens (hi : Inv s) (h : s.Had i y) : ¬ s.Opens y := by
  rintro ⟨c, x, _, _, hx, _, hopen⟩
  obtain ⟨z, hz, hy, _⟩ := h
  have hclosed := hi.opened i z hz
  have hcode : z.code = y.code := by rw [hy]
  rw [hcode] at hclosed
  exact Codes.not_closed_of_open hx hopen hclosed

theorem Inv.effect (hi : Inv s) (hclock : s.clock ≤ s'.clock) (hcodes : Codes.Inv s'.codes)
    (hclosed : ∀ o k, s.codes.Closed o k → s'.codes.Closed o k)
    (hsessions : ∀ i y, s'.sessions i = some y → s.Had i y) : Effect s s' where
  clock := hclock
  codes := hcodes
  closed := hclosed
  sessions i y hy := .inl (hsessions i y hy)
  one i _ y _ hy _ hopens _ := absurd hopens (hi.not_opens (hsessions i y hy))

theorem had_revoke (picked : SessionId → Bool) (hy : (s.revoke picked).sessions i = some y) :
    s.Had i y := by
  obtain ⟨x, hx, rfl⟩ := Option.map_eq_some_iff.mp hy
  refine ⟨x, hx, ?_, ?_⟩
  · split <;> rfl
  · split
    · exact fun _ => rfl
    · exact id

theorem Inv.effect_codes (hi : Inv s) {a : Codes.Act OperatorId CodeId}
    (h : Codes.Step s.codes c a s'.codes) (hclock : s.clock ≤ s'.clock)
    (hsessions : ∀ i y, s'.sessions i = some y → s.Had i y) : Effect s s' :=
  hi.effect hclock (hi.codes.step h) (fun _ _ => h.closed hi.codes) hsessions

theorem Revokes.effect (hi : Inv s) (h : Revokes s o s') : Effect s s' := by
  cases h with
  | mk c _ _ hstep => exact hi.effect_codes hstep le_rfl fun _ _ => had_revoke _

theorem openSession_sessions (hj : (s.openSession i x).sessions j = some y) :
    j = i ∧ y = x ∨ j ≠ i ∧ s.sessions j = some y := by
  by_cases hji : j = i
  · subst hji
    simp only [State.openSession, Function.update_self, Option.some.injEq] at hj
    exact .inl ⟨rfl, hj.symm⟩
  · exact .inr ⟨hji, by simpa [State.openSession, hji] using hj⟩

theorem Step.effect (hi : Inv s) (h : Step s s') : Effect s s' := by
  cases h with
  | ticks t ht => exact hi.effect ht hi.codes (fun _ _ h => h) fun _ _ => Had.of_eq rfl
  | issueBegins _ _ _ hstep | issueCommits _ _ _ _ _ hstep | redeems _ _ _ _ _ _ _ hstep
  | revokeBegins _ _ _ _ _ hstep | selects _ _ hstep | looks _ _ _ hstep | skips _ _ _ hstep
  | stops _ hstep =>
    exact hi.effect_codes hstep le_rfl fun _ _ => Had.of_eq rfl
  | @redeemed x codes c k i at_ htask _ hx hnone hstep =>
    obtain ⟨hlock, x', hx', hopen, hclosed⟩ := hstep.redeemed_open hi.codes
    rw [hx, Option.some.injEq] at hx'
    subst hx'
    refine ⟨le_rfl, hi.codes.step hstep, fun _ _ => hstep.closed hi.codes, fun j y hy => ?_,
      fun j l y z hy hz hopens hopens' => ?_⟩
    · obtain ⟨rfl, rfl⟩ | ⟨_, hy⟩ := openSession_sessions hy
      · exact .inr ⟨⟨c, x, htask, hlock, hx, rfl, hopen⟩, hclosed⟩
      · exact .inl (Had.of_eq rfl hy)
    · obtain ⟨rfl, _⟩ | ⟨_, hy⟩ := openSession_sessions hy
      · obtain ⟨rfl, _⟩ | ⟨_, hz⟩ := openSession_sessions hz
        · rfl
        · exact absurd hopens' (hi.not_opens (Had.of_eq rfl hz))
      · exact absurd hopens (hi.not_opens (Had.of_eq rfl hy))
  | sweeps => exact hi.effect le_rfl hi.codes (fun _ _ h => h) fun _ _ => Had.of_eq rfl
  | revokes hrev => exact hrev.effect hi
  | signsOut i => exact hi.effect le_rfl hi.codes (fun _ _ h => h) fun _ _ => had_revoke _

-- ---------------------------------------------------------------------------
-- The invariant
-- ---------------------------------------------------------------------------

theorem Effect.opened (hi : Inv s) (he : Effect s s') (hy : s'.sessions i = some y) :
    s'.codes.Closed y.operator y.code := by
  cases he.sessions i y hy with
  | inl had =>
    obtain ⟨x, hx, heq, _⟩ := had
    have hclosed := he.closed _ _ (hi.opened i x hx)
    rw [heq]
    exact hclosed
  | inr opens => exact opens.2

theorem Effect.once (hi : Inv s) (he : Effect s s') {j : SessionId} {z : Session}
    (hy : s'.sessions i = some y) (hz : s'.sessions j = some z) (hcode : y.code = z.code) :
    i = j := by
  have hopens : ∀ y z : Session, y.code = z.code → s.Opens y → ¬ s.Had j z ∧ ¬ s.Had i z := by
    rintro y z hcode ⟨c, x, _, _, hx, _, hopen⟩
    have hnot : ∀ l, ¬ s.Had l z := by
      rintro l ⟨w, hw, heq, _⟩
      have hclosed := hi.opened l w hw
      have hw : w.code = y.code := by rw [hcode, heq]
      rw [hw] at hclosed
      exact Codes.not_closed_of_open hx hopen hclosed
    exact ⟨hnot j, hnot i⟩
  cases he.sessions i y hy with
  | inl had =>
    cases he.sessions j z hz with
    | inl had' =>
      obtain ⟨x, hx, hxy, _⟩ := had
      obtain ⟨w, hw, hwz, _⟩ := had'
      exact hi.once i j x w hx hw (by rw [hxy, hwz] at hcode; exact hcode)
    | inr opens' => exact absurd had (hopens z y hcode.symm opens'.1).2
  | inr opens =>
    cases he.sessions j z hz with
    | inl had' => exact absurd had' (hopens y z hcode opens.1).1
    | inr opens' => exact he.one i j y z hy hz opens.1 opens'.1

theorem Effect.ok (hi : Inv s) (he : Effect s s')
    (hphase : s'.codes.phase d = s.codes.phase d) (ht : s.task d = t) (h : s.Ok d t) :
    s'.Ok d t := by
  cases t with
  | other => trivial
  | revoking at_ => exact Nat.le_trans h he.clock
  | swept at_ picked =>
    obtain ⟨hat, o, todo, hvoiding, htodo, hsessions⟩ := h
    refine ⟨Nat.le_trans hat he.clock, o, todo, hphase.trans hvoiding, htodo, fun i y hy ho => ?_⟩
    cases he.sessions i y hy with
    | inl had =>
      obtain ⟨x, hx, heq, hrevoked⟩ := had
      have hended := hsessions i x hx (by rw [heq] at ho; exact ho)
      refine hended.imp_left fun hended => ?_
      cases hended with
      | inl hr => exact .inl (hrevoked hr)
      | inr hexpired =>
        rw [heq]
        exact .inr hexpired
    | inr opens =>
      -- the code is open, and locked by the call that redeems it
      obtain ⟨⟨c, x, htask, hlock, hx, howner, hopen⟩, _⟩ := opens
      cases hi.codes.voiding hvoiding htodo hx (howner.trans ho) with
      | inl hclosed =>
        rw [hopen] at hclosed
        cases hclosed
      | inr hlocked =>
        rw [hlock, Option.some.injEq] at hlocked
        rw [← hlocked, htask] at ht
        cases ht

theorem Inv.of_effect (hi : Inv s) (he : Effect s s')
    (htasks : ∀ d, s'.Ok d (s'.task d) ∨
      s'.codes.phase d = s.codes.phase d ∧ s'.task d = s.task d) : Inv s' where
  codes := he.codes
  opened _ _ := he.opened hi
  once _ _ _ _ := he.once hi
  tasks d := by
    obtain h | ⟨hphase, htask⟩ := htasks d
    · exact h
    · rw [htask]
      exact he.ok hi hphase rfl (hi.tasks d)

theorem goto_task_ne (s : State) (t : Task) (hd : d ≠ c) : (s.goto c t).task d = s.task d :=
  Function.update_of_ne hd ..

theorem goto_task (s : State) (c : Call) (t : Task) : (s.goto c t).task c = t :=
  Function.update_self ..

/-- A call's statement on codes, whatever it is doing: unless it has swept, it needs to know
nothing of its phase. -/
theorem Inv.tasks_codes (hi : Inv s) {a : Codes.Act OperatorId CodeId}
    (h : Codes.Step s.codes c a s'.codes) (hclock : s.clock ≤ s'.clock)
    (htask : s'.task = s.task) (hc : ∀ at_ picked, s.task c ≠ .swept at_ picked) (d : Call) :
    s'.Ok d (s'.task d) ∨ s'.codes.phase d = s.codes.phase d ∧ s'.task d = s.task d := by
  by_cases hd : d = c
  · subst hd
    left
    have hok := hi.tasks d
    rw [htask]
    cases ht : s.task d with
    | other => trivial
    | revoking at_ =>
      rw [ht] at hok
      exact Nat.le_trans hok hclock
    | swept at_ picked => exact absurd ht (hc at_ picked)
  · exact .inr ⟨h.phase_ne hd, congrFun htask d⟩

theorem tasks_goto {a : Codes.Act OperatorId CodeId} {codes : Codes.State OperatorId CodeId}
    {u : State} (h : Codes.Step s.codes c a codes) (hcodes : u.codes = codes)
    (htask : u.task = s.task) (hok : (u.goto c t).Ok c t) (d : Call) :
    (u.goto c t).Ok d ((u.goto c t).task d) ∨
      (u.goto c t).codes.phase d = s.codes.phase d ∧ (u.goto c t).task d = s.task d := by
  by_cases hd : d = c
  · subst hd
    left
    rw [goto_task]
    exact hok
  · refine .inr ⟨?_, (goto_task_ne u t hd).trans (congrFun htask d)⟩
    have hphase := h.phase_ne hd
    rw [← hcodes] at hphase
    exact hphase

theorem Inv.step (hi : Inv s) (h : Step s s') : Inv s' := by
  refine hi.of_effect (h.effect hi) ?_
  cases h with
  | ticks | signsOut => exact fun d => .inr ⟨rfl, rfl⟩
  | issueBegins _ _ htask hstep | issueCommits _ _ _ htask _ hstep
  | redeems _ _ _ htask _ _ _ hstep | redeemed _ _ _ _ htask _ _ _ hstep =>
    exact hi.tasks_codes hstep le_rfl rfl (by simp [htask])
  | selects _ htask hstep | looks _ _ htask hstep | skips _ _ htask hstep =>
    exact hi.tasks_codes hstep le_rfl rfl (by simp [htask])
  | revokeBegins c o at_ _ hat hstep => exact tasks_goto hstep rfl rfl hat
  | stops c hstep => exact tasks_goto hstep rfl rfl trivial
  | @sweeps at_ o todo c htask hphase htodo =>
    intro d
    by_cases hd : d = c
    · subst hd
      left
      have hat := hi.tasks d
      rw [htask] at hat
      rw [goto_task]
      refine ⟨hat, o, todo, hphase, htodo, fun i x hx ho => ?_⟩
      change s.sessions i = some x at hx
      by_cases hended : x.Ended at_
      · exact .inl hended
      · simp only [Session.Ended, not_or, not_le, Bool.not_eq_true] at hended
        exact .inr (by simp [State.live, hx, ho, hended])
    · exact .inr ⟨rfl, goto_task_ne s _ hd⟩
  | revokes hrev =>
    cases hrev with
    | mk c _ _ hstep => exact tasks_goto hstep rfl rfl trivial

theorem State.Initial.inv (h : s.Initial) : Inv s where
  codes c := by
    rw [h.phase c]
    trivial
  opened i x hx := by
    rw [h.sessions i] at hx
    cases hx
  once i j x y hx := by
    rw [h.sessions i] at hx
    cases hx
  tasks c := by
    rw [h.task c]
    trivial

theorem Inv.steps (hi : Inv s) (h : Steps s s') : Inv s' := by
  induction h with
  | refl => exact hi
  | step _ hstep ih => exact ih.step hstep

-- ---------------------------------------------------------------------------
-- After a revocation
-- ---------------------------------------------------------------------------

/-- A code is spent or void, and the sessions it opened, all of them `old`, have ended. -/
structure Barred (o : OperatorId) (k : CodeId) (old : SessionId → Prop) (s : State) : Prop where
  closed : s.codes.Closed o k
  sessions : ∀ i x, s.sessions i = some x → x.code = k → old i ∧ x.Ended s.clock

theorem Barred.step {old : SessionId → Prop} (hb : Barred o k old s) (hi : Inv s)
    (h : Step s s') : Barred o k old s' := by
  have he := h.effect hi
  refine ⟨he.closed o k hb.closed, fun i y hy hcode => ?_⟩
  cases he.sessions i y hy with
  | inl had =>
    obtain ⟨x, hx, heq, hrevoked⟩ := had
    obtain ⟨hold, hended⟩ := hb.sessions i x hx (by rw [heq] at hcode; exact hcode)
    refine ⟨hold, ?_⟩
    cases hended with
    | inl hr => exact .inl (hrevoked hr)
    | inr hexpired =>
      rw [heq]
      exact .inr (hexpired.trans he.clock)
  | inr opens =>
    obtain ⟨⟨c, x, _, _, hx, _, hopen⟩, _⟩ := opens
    rw [hcode] at hx
    exact absurd hb.closed (Codes.not_closed_of_open hx hopen)

theorem Barred.steps {old : SessionId → Prop} (hb : Barred o k old s) (hi : Inv s)
    (h : Steps s s') : Barred o k old s' := by
  induction h with
  | refl => exact hb
  | step hsteps hstep ih => exact ih.step (hi.steps hsteps) hstep

theorem Revokes.barred (hi : Inv s) (h : Revokes s o s') {y : Codes.Code OperatorId}
    (hy : s.codes.codes k = some y) (ho : y.owner = o) :
    Barred o k (fun i => (s'.sessions i).isSome) s' := by
  cases h with
  | @mk at_ picked todo codes c htask hphase hstep =>
    refine ⟨Codes.Step.voided_closed hi.codes hphase (.inl hstep) hy ho, fun i x hx hcode => ?_⟩
    refine ⟨by rw [hx]; rfl, ?_⟩
    obtain ⟨z, hz, rfl⟩ := Option.map_eq_some_iff.mp hx
    change s.sessions i = some z at hz
    have hok := hi.tasks c
    rw [htask] at hok
    obtain ⟨hat, o', todo', hphase', _, hsessions⟩ := hok
    rw [hphase, Codes.Phase.voiding.injEq] at hphase'
    -- its code's owner is the operator, so the sweep picked it unless it had ended
    obtain ⟨w, hw, hwo, _⟩ := hi.opened i z hz
    have hzcode : z.code = k := by split at hcode <;> exact hcode
    rw [hzcode, hy, Option.some.injEq] at hw
    have hoperator : z.operator = o' := by rw [← hwo, ← hw, ho, hphase'.1]
    cases hsessions i z hz hoperator with
    | inl hended =>
      split
      · exact .inl rfl
      · exact hended.mono hat
    | inr hpicked =>
      rw [if_pos hpicked]
      exact .inl rfl

theorem authenticate_none (hx : s.sessions i = some x) (h : x.Ended s.clock) :
    s.authenticate i = none := by
  unfold State.authenticate
  rw [hx]
  cases h with
  | inl hrevoked => simp [hrevoked]
  | inr hexpired => simp [Nat.not_lt.mpr hexpired]

/-- Once a revocation has committed, no session of a code issued before authenticates, or is ever
opened; and a code never opens two. -/
theorem revocation_final (h₀ : s₀.Initial) (h : Steps s₀ s) (hr : Revokes s o s')
    (h' : Steps s' s'') :
    (∀ k y, s.codes.codes k = some y → y.owner = o → ∀ i x, s''.sessions i = some x →
      x.code = k → (s'.sessions i).isSome ∧ s''.authenticate i = none) ∧
    ∀ i j x y, s''.sessions i = some x → s''.sessions j = some y → x.code = y.code → i = j := by
  have hi := h₀.inv.steps h
  have hi' := hi.step (.revokes hr)
  refine ⟨fun k y hy ho i x hx hcode => ?_, (hi'.steps h').once⟩
  obtain ⟨hold, hended⟩ := ((hr.barred hi hy ho).steps hi' h').sessions i x hx hcode
  exact ⟨hold, authenticate_none hx hended⟩

def beginning : State where
  codes := ⟨fun _ => none, fun _ => none, fun _ => none, fun _ => .out⟩
  sessions _ := none
  task _ := .other
  clock := 0

theorem beginning_initial : beginning.Initial :=
  ⟨fun _ => rfl, fun _ => rfl, fun _ => rfl, fun _ => rfl⟩

/-- Code 5 of operator 1 is redeemed for session 9, and code 6 is being redeemed as a revocation
selects the codes: it opens session 10, and the revocation ends both. -/
theorem revocation_final_redeemed :
    ∃ s s', Revokes s 1 s' ∧ s.authenticate 9 = some 1 ∧ s.authenticate 10 = some 1 ∧
      s'.authenticate 9 = none ∧ s'.authenticate 10 = none := by
  have hissuing : Steps beginning _ := Steps.refl.step (.issueBegins 0 1 rfl (.owns 1 rfl rfl))
  have hissued := hissuing.step (.issueCommits 0 5 0 rfl le_rfl (.issued 5 _ rfl rfl))
  have hissuing' := hissued.step (.issueBegins 0 1 rfl (.owns 1 rfl rfl))
  have hissued' := hissuing'.step (.issueCommits 0 6 0 rfl le_rfl (.issued 6 _ rfl rfl))
  have hredeeming := hissued'.step
    (.redeems 1 5 0 rfl le_rfl rfl (by decide) (.redeems 5 rfl rfl rfl rfl))
  have hopened := hredeeming.step
    (.redeemed 1 5 9 0 rfl le_rfl rfl rfl (.redeemed 5 rfl rfl))
  have hredeeming' := hopened.step
    (.redeems 3 6 0 rfl le_rfl rfl (by decide) (.redeems 6 rfl rfl rfl rfl))
  have hrevoking := hredeeming'.step (.revokeBegins 2 1 0 rfl le_rfl (.owns 1 rfl rfl))
  have hselected := hrevoking.step (.selects 2 rfl (.selects rfl))
  have hopened' := hselected.step
    (.redeemed 3 6 10 0 rfl le_rfl rfl rfl (.redeemed 6 rfl rfl))
  have hskipped := hopened'.step (.skips 2 6 rfl (.skips 6 rfl rfl rfl))
  have htodo (k : CodeId) :
      Function.update (hrevoking.last.codes.outstanding 1) 6 false k = false := by
    by_cases hk : k = 6
    · simp [hk]
    · by_cases hk' : k = 5
      · subst hk'
        rfl
      · simp [hk, hk', Codes.State.outstanding, Steps.last, State.goto, State.openSession,
          Codes.State.goto, Codes.State.put, Codes.State.leave, Codes.State.lockCode, beginning]
  have hswept := hskipped.step (.sweeps 2 rfl rfl htodo)
  have hrevokes : Revokes hswept.last 1 _ := .mk 2 rfl rfl (.voided rfl htodo)
  have hends := (revocation_final beginning_initial hswept hrevokes .refl).1
  exact ⟨_, _, hrevokes, rfl, rfl, (hends 5 _ rfl rfl 9 _ rfl rfl).2,
    (hends 6 _ rfl rfl 10 _ rfl rfl).2⟩

end Kippu.Operators
