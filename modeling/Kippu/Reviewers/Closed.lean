import Kippu.Reviewers.Runs

/-!
# Reviewers' access

An enrolment adds its passkey and opens its session in the transaction that spends its
code, so neither comes of a code that a reissue or a disabling found, whatever ceremony
began with it. A disabled reviewer stays disabled, and authenticating looks at that.
-/

namespace Kippu.Reviewers

open Conc

variable {s s' s'' s₀ : State} {c : Call} {r : ReviewerId} {k : CodeId} {p : PasskeyId}
  {i : SessionId} {x : Passkey} {y : Session}

def State.Open (s : State) (k : CodeId) : Prop :=
  ∃ x, s.codes.codes k = some x ∧ x.open = true

def State.Spent (s : State) (k : CodeId) : Prop := ∃ r, s.codes.Closed r k

def State.Disabled (s : State) (r : ReviewerId) : Prop :=
  ∃ x, s.reviewers r = some x ∧ x.disabled = true

theorem State.Open.not_spent (h : s.Open k) : ¬ s.Spent k := by
  obtain ⟨x, hx, hopen⟩ := h
  rintro ⟨r, hclosed⟩
  exact Codes.not_closed_of_open hx hopen hclosed

structure Inv (s : State) : Prop where
  codes : Codes.Inv s.codes
  spent : ∀ p x, s.passkeys p = some x → s.Spent x.code
  once : ∀ p q x y, s.passkeys p = some x → s.passkeys q = some y → x.code = y.code → p = q

-- ---------------------------------------------------------------------------
-- What a step does
-- ---------------------------------------------------------------------------

structure Effect (s s' : State) : Prop where
  codes : Codes.Inv s'.codes
  spent : ∀ k, s.Spent k → s'.Spent k
  disabled : ∀ r, s.Disabled r → s'.Disabled r
  passkeys : ∀ p x, s'.passkeys p = some x →
    s.passkeys p = some x ∨ s.Open x.code ∧ s'.Spent x.code
  one : ∀ p q x y, s'.passkeys p = some x → s'.passkeys q = some y → s.Open x.code →
    s.Open y.code → p = q
  sessions : ∀ i y k, s'.sessions i = some y → y.code = some k →
    (∃ z, s.sessions i = some z ∧ z.code = some k) ∨ s.Open k

/-- A step that adds no passkey, and no session of an enrolment. -/
theorem Inv.effect (hi : Inv s) (hcodes : Codes.Inv s'.codes)
    (hspent : ∀ k, s.Spent k → s'.Spent k) (hdisabled : ∀ r, s.Disabled r → s'.Disabled r)
    (hpasskeys : s'.passkeys = s.passkeys)
    (hsessions : ∀ i y k, s'.sessions i = some y → y.code = some k →
      ∃ z, s.sessions i = some z ∧ z.code = some k) : Effect s s' where
  codes := hcodes
  spent := hspent
  disabled := hdisabled
  passkeys _ _ hx := .inl (hpasskeys ▸ hx)
  one _ _ _ _ hx _ hopen _ := absurd (hi.spent _ _ (hpasskeys ▸ hx)) hopen.not_spent
  sessions i y k hy hk := .inl (hsessions i y k hy hk)

theorem spent_step (hi : Inv s) {a : Codes.Act ReviewerId CodeId}
    {codes : Codes.State ReviewerId CodeId} (h : Codes.Step s.codes c a codes)
    (hk : s.Spent k) : ∃ r, codes.Closed r k := by
  obtain ⟨r, hr⟩ := hk
  exact ⟨r, h.closed hi.codes hr⟩

theorem Inv.effect_codes (hi : Inv s) {a : Codes.Act ReviewerId CodeId}
    (h : Codes.Step s.codes c a s'.codes) (hdisabled : ∀ r, s.Disabled r → s'.Disabled r)
    (hpasskeys : s'.passkeys = s.passkeys)
    (hsessions : ∀ i y k, s'.sessions i = some y → y.code = some k →
      ∃ z, s.sessions i = some z ∧ z.code = some k) : Effect s s' :=
  hi.effect (hi.codes.step h) (fun _ => spent_step hi h) hdisabled hpasskeys hsessions

theorem revoke_sessions {picked : SessionId → Bool}
    (hy : (s.revoke picked).sessions i = some y) (hk : y.code = some k) :
    ∃ z, s.sessions i = some z ∧ z.code = some k := by
  obtain ⟨z, hz, rfl⟩ := Option.map_eq_some_iff.mp hy
  refine ⟨z, hz, ?_⟩
  split at hk <;> exact hk

theorem openSession_sessions {j : SessionId} {z : Session}
    (hj : (s.openSession i z).sessions j = some y) :
    j = i ∧ y = z ∨ s.sessions j = some y := by
  by_cases hji : j = i
  · subst hji
    simp only [State.openSession, Function.update_self, Option.some.injEq] at hj
    exact .inl ⟨rfl, hj.symm⟩
  · exact .inr (by simpa [State.openSession, hji] using hj)

theorem addPasskey_passkeys {q : PasskeyId} {z : Passkey}
    (hq : (s.addPasskey p z).passkeys q = some x) :
    q = p ∧ x = z ∨ s.passkeys q = some x := by
  by_cases hqp : q = p
  · subst hqp
    simp only [State.addPasskey, Function.update_self, Option.some.injEq] at hq
    exact .inl ⟨rfl, hq.symm⟩
  · exact .inr (by simpa [State.addPasskey, hqp] using hq)

theorem updateReviewer_disabled {f : Reviewer → Reviewer}
    (hf : ∀ x, x.disabled = true → (f x).disabled = true) (h : s.Disabled r) (r' : ReviewerId) :
    (s.updateReviewer r' f).Disabled r := by
  obtain ⟨x, hx, hdisabled⟩ := h
  by_cases hr : r = r'
  · subst hr
    exact ⟨f x, by simp [State.updateReviewer, hx], hf x hdisabled⟩
  · exact ⟨x, by simpa [State.updateReviewer, hr] using hx, hdisabled⟩

theorem setReviewer_disabled (h : s.Disabled r) {r' : ReviewerId} (hnone : s.reviewers r' = none)
    (z : Reviewer) : (s.setReviewer r' z).Disabled r := by
  obtain ⟨x, hx, hdisabled⟩ := h
  have hr : r ≠ r' := by
    rintro rfl
    rw [hnone] at hx
    cases hx
  exact ⟨x, by simpa [State.setReviewer, hr] using hx, hdisabled⟩

theorem Disables.effect (hi : Inv s) (h : Disables s r s') : Effect s s' := by
  cases h with
  | mk c kept _ _ _ hstep =>
    exact hi.effect_codes hstep (fun _ hd => updateReviewer_disabled (fun _ _ => rfl) hd r) rfl
      fun _ _ _ => revoke_sessions

theorem Reissues.effect (hi : Inv s) (h : Reissues s r s') : Effect s s' := by
  cases h with
  | mk c k at_ _ _ _ hstep =>
    exact hi.effect_codes hstep (fun _ hd => hd) rfl fun _ y _ hy hk => ⟨y, hy, hk⟩

theorem Inv.enrols (hi : Inv s) {codes : Codes.State ReviewerId CodeId} {at_ : Time}
    (hstep : Codes.Step s.codes c (.redeemed k) codes) (t : Task) :
    Effect s (((({ s with codes }.addPasskey p ⟨r, k⟩).enrol r).openSession i
      ⟨r, some k, at_, false⟩).goto c t) := by
  obtain ⟨_, z, hz, hopen, hclosed⟩ := hstep.redeemed_open hi.codes
  have hold : ∀ {q x}, s.passkeys q = some x → ¬ s.Open x.code := fun hx hopen =>
    hopen.not_spent (hi.spent _ _ hx)
  constructor
  · exact hi.codes.step hstep
  · exact fun _ => spent_step hi hstep
  · exact fun r' hd =>
      updateReviewer_disabled (f := fun x => { x with enrolled := true }) (fun _ h => h) hd r
  · intro q x hx
    obtain ⟨rfl, rfl⟩ | hx := addPasskey_passkeys hx
    · exact .inr ⟨⟨z, hz, hopen⟩, z.owner, hclosed⟩
    · exact .inl hx
  · intro q q' x x' hx hx' hopen hopen'
    obtain ⟨rfl, _⟩ | hx := addPasskey_passkeys hx
    · obtain ⟨rfl, _⟩ | hx' := addPasskey_passkeys hx'
      · rfl
      · exact absurd hopen' (hold hx')
    · exact absurd hopen (hold hx)
  · intro j y k' hy hk
    obtain ⟨rfl, rfl⟩ | hy := openSession_sessions hy
    · cases hk
      exact .inr ⟨z, hz, hopen⟩
    · exact .inl ⟨y, hy, hk⟩

theorem Step.effect (hi : Inv s) (h : Step s s') : Effect s s' := by
  cases h with
  | ticks | ends | finds | signInFinds | begins | consumes | answers | verifies | wastes =>
    exact hi.effect hi.codes (fun _ h => h) (fun _ h => h) rfl fun _ y _ hy hk => ⟨y, hy, hk⟩
  | creates _ _ _ _ hstep | reissueBegins _ _ _ _ hstep | disableBegins _ _ _ _ _ _ hstep
  | selects _ _ hstep | looks _ _ _ hstep | skips _ _ _ hstep | spends _ _ _ _ _ _ hstep
  | stops _ hstep =>
    exact hi.effect_codes hstep (fun _ h => h) rfl fun _ y _ hy hk => ⟨y, hy, hk⟩
  | created _ _ _ _ _ _ hnone hstep =>
    exact hi.effect_codes hstep (fun _ hd => setReviewer_disabled hd hnone _) rfl
      fun _ y _ hy hk => ⟨y, hy, hk⟩
  | reissues h => exact h.effect hi
  | disables h => exact h.effect hi
  | enrols c p i at_ _ _ _ _ hstep => exact hi.enrols hstep .other
  | signsIn c i at_ _ _ hnone =>
    refine hi.effect hi.codes (fun _ h => h) (fun _ h => h) rfl fun j y k hy hk => ?_
    obtain ⟨rfl, rfl⟩ | hy := openSession_sessions hy
    · cases hk
    · exact ⟨y, hy, hk⟩
  | signsOut i =>
    exact hi.effect hi.codes (fun _ h => h) (fun _ h => h) rfl fun _ _ _ => revoke_sessions

-- ---------------------------------------------------------------------------
-- Runs
-- ---------------------------------------------------------------------------

theorem Inv.step (hi : Inv s) (h : Step s s') : Inv s' := by
  have he := h.effect hi
  have hold : ∀ {p x}, s.passkeys p = some x → ¬ s.Open x.code := fun hx hopen =>
    hopen.not_spent (hi.spent _ _ hx)
  refine ⟨he.codes, fun p x hx => ?_, fun p q x y hx hy hcode => ?_⟩
  · cases he.passkeys p x hx with
    | inl had => exact he.spent x.code (hi.spent p x had)
    | inr new => exact new.2
  · cases he.passkeys p x hx with
    | inl had =>
      cases he.passkeys q y hy with
      | inl had' => exact hi.once p q x y had had' hcode
      | inr new' => exact absurd (hcode ▸ new'.1) (hold had)
    | inr new =>
      cases he.passkeys q y hy with
      | inl had' => exact absurd (hcode ▸ new.1) (hold had')
      | inr new' => exact he.one p q x y hx hy new.1 new'.1

theorem Inv.steps (hi : Inv s) (h : Steps s s') : Inv s' := by
  induction h with
  | refl => exact hi
  | step _ hstep ih => exact ih.step hstep

theorem State.Initial.inv (h : s.Initial) : Inv s where
  codes c := by
    rw [h.phase c]
    trivial
  spent p x hx := by
    rw [h.passkeys p] at hx
    cases hx
  once p q x y hx := by
    rw [h.passkeys p] at hx
    cases hx

theorem Inv.disabled (hi : Inv s) (h : Steps s s') (hd : s.Disabled r) : s'.Disabled r := by
  induction h with
  | refl => exact hd
  | step hsteps hstep ih => exact (hstep.effect (hi.steps hsteps)).disabled r ih

/-- A code is spent or void, and what it added is among what there was. -/
structure Barred (k : CodeId) (passkeys : PasskeyId → Prop) (sessions : SessionId → Prop)
    (s : State) : Prop where
  spent : s.Spent k
  passkeys : ∀ p x, s.passkeys p = some x → x.code = k → passkeys p
  sessions : ∀ i y, s.sessions i = some y → y.code = some k → sessions i

theorem Barred.steps {passkeys : PasskeyId → Prop} {sessions : SessionId → Prop}
    (hb : Barred k passkeys sessions s) (hi : Inv s) (h : Steps s s') :
    Barred k passkeys sessions s' := by
  induction h with
  | refl => exact hb
  | step hsteps hstep ih =>
    have he := hstep.effect (hi.steps hsteps)
    refine ⟨he.spent k ih.spent, fun p x hx hcode => ?_, fun i y hy hcode => ?_⟩
    · cases he.passkeys p x hx with
      | inl had => exact ih.passkeys p x had hcode
      | inr new => exact absurd ih.spent (hcode ▸ new.1).not_spent
    · cases he.sessions i y k hy hcode with
      | inl had =>
        obtain ⟨z, hz, hzk⟩ := had
        exact ih.sessions i z hz hzk
      | inr new => exact absurd ih.spent new.not_spent

theorem spent_of_voids (hi : Inv s) (h : Disables s r s' ∨ Reissues s r s')
    {x : Codes.Code ReviewerId} (hx : s.codes.codes k = some x) (ho : x.owner = r) :
    s'.Spent k := by
  cases h with
  | inl h =>
    cases h with
    | mk c kept _ hphase _ hstep =>
      exact ⟨r, Codes.Step.voided_closed hi.codes hphase (.inl hstep) hx ho⟩
  | inr h =>
    cases h with
    | mk c k' at_ _ _ hphase hstep =>
      exact ⟨r, Codes.Step.voided_closed hi.codes hphase (.inr ⟨k', _, hstep⟩) hx ho⟩

theorem Disables.disabled (h : Disables s r s') : s'.Disabled r := by
  cases h with
  | @mk picked todo x codes c kept _ _ hx _ =>
    exact ⟨{ x with disabled := true }, by simp [State.goto, State.clear, State.revoke,
      State.disable, State.updateReviewer, hx], rfl⟩

theorem authenticate_ne (h : s.Disabled r) (i : SessionId) : s.authenticate i ≠ some r := by
  intro hauth
  obtain ⟨x, hx, hdisabled⟩ := h
  simp only [State.authenticate, bind, Option.bind_eq_some_iff] at hauth
  obtain ⟨y, _, z, hz, hif⟩ := hauth
  split at hif
  · rename_i hlive
    rw [Option.some.injEq] at hif
    rw [hif, hx, Option.some.injEq] at hz
    subst hz
    simp [hdisabled] at hlive
  · cases hif

/-- A code adds one passkey at most. Once a disabling or a reissue has committed, no code issued
before adds a passkey or opens a session; and a disabled reviewer's token authenticates nobody. -/
theorem access_closed (h₀ : s₀.Initial) (h : Steps s₀ s) :
    (∀ p q x y, s.passkeys p = some x → s.passkeys q = some y → x.code = y.code → p = q) ∧
    ∀ r s' s'', Disables s r s' ∨ Reissues s r s' → Steps s' s'' →
      (Disables s r s' → ∀ i, s''.authenticate i ≠ some r) ∧
      ∀ k z, s.codes.codes k = some z → z.owner = r →
        (∀ p x, s''.passkeys p = some x → x.code = k → (s'.passkeys p).isSome) ∧
        ∀ i y, s''.sessions i = some y → y.code = some k → (s'.sessions i).isSome := by
  have hi := h₀.inv.steps h
  refine ⟨hi.once, fun r s' s'' hvoids h' => ?_⟩
  have hi' : Inv s' := hvoids.elim (fun h => hi.step (.disables h)) fun h => hi.step (.reissues h)
  refine ⟨fun hd i => authenticate_ne (hi'.disabled h' hd.disabled) i, fun k z hz ho => ?_⟩
  have hbarred : Barred k (fun p => (s'.passkeys p).isSome) (fun i => (s'.sessions i).isSome) s' :=
    ⟨spent_of_voids hi hvoids hz ho, fun p x hx _ => by rw [hx]; rfl,
      fun i y hy _ => by rw [hy]; rfl⟩
  exact ⟨(hbarred.steps hi' h').passkeys, (hbarred.steps hi' h').sessions⟩

def start : State where
  reviewers _ := none
  codes := ⟨fun _ => none, fun _ => none, fun _ => none, fun _ => .out⟩
  ceremonies _ := none
  passkeys _ := none
  sessions _ := none
  task _ := .other
  clock := 0

theorem start_initial : start.Initial :=
  ⟨fun _ => rfl, fun _ => rfl, fun _ => rfl, fun _ => rfl, fun _ => rfl, fun _ => rfl,
    fun _ => rfl⟩

/-- Reviewer 1 is created with code 5, which opens session 9, and is disabled between a begun
sign-in's passkey and its session: session 10 is opened, and authenticates nobody. -/
theorem access_closed_disabled :
    ∃ s s' s'', Disables s 1 s' ∧ s.authenticate 9 = some 1 ∧ Steps s' s'' ∧
      (s''.sessions 10).isSome ∧ s''.authenticate 9 ≠ some 1 ∧ s''.authenticate 10 ≠ some 1 := by
  have hcreating : Steps start _ := Steps.refl.step (.creates 0 1 rfl rfl (.owns 1 rfl rfl))
  have hcreated := hcreating.step (.created 0 5 0 rfl le_rfl rfl rfl (.issued 5 _ rfl rfl))
  have hfound := hcreated.step (.finds 1 5 0 rfl le_rfl rfl rfl (by decide) rfl)
  have hbegun := hfound.step (.begins 1 3 0 rfl le_rfl rfl)
  have hconsumed := hbegun.step (.consumes 2 3 0 rfl le_rfl rfl (by decide) rfl)
  have hspent := hconsumed.step
    (.spends 2 0 rfl le_rfl rfl (by decide) (.redeems 5 rfl rfl rfl rfl))
  have henrolled := hspent.step (.enrols 2 7 9 0 rfl le_rfl rfl rfl (.redeemed 5 rfl rfl))
  have hsignIn := henrolled.step (.signInFinds 4 1 rfl rfl rfl rfl)
  have hceremony := hsignIn.step (.begins 4 6 0 rfl le_rfl rfl)
  have hanswered := hceremony.step (.answers 4 6 0 rfl le_rfl rfl (by decide) rfl)
  have hverified := hanswered.step (.verifies 4 7 rfl rfl)
  have hdisabling := hverified.step (.disableBegins 3 1 0 rfl rfl le_rfl (.owns 1 rfl rfl))
  have hselected := hdisabling.step (.selects 3 (.inr rfl) (.selects rfl))
  have hskipped := hselected.step (.skips 3 5 (.inr rfl) (.skips 5 rfl rfl rfl))
  have htodo (k : CodeId) :
      Function.update (hdisabling.last.codes.outstanding 1) 5 false k = false := by
    by_cases hk : k = 5
    · simp [hk]
    · simp [hk, Codes.State.outstanding, Steps.last, State.goto, State.openSession,
        State.addPasskey, State.enrol, State.updateReviewer, State.consume, State.addCeremony,
        State.setReviewer, Codes.State.goto, Codes.State.put, Codes.State.leave,
        Codes.State.lockCode, start]
  have hended := hskipped.step (.ends 3 rfl rfl htodo)
  have hdisables : Disables hended.last 1 _ :=
    .mk 3 (fun _ => false) rfl rfl rfl (.voided rfl htodo)
  have hdisabled := hended.step (.disables hdisables)
  have hsigned := (Steps.refl (s := hdisabled.last)).step (.signsIn 4 10 0 rfl le_rfl rfl)
  have hclosed := ((access_closed start_initial hended).2 1 _ _ (.inl hdisables) hsigned).1
  exact ⟨_, _, _, hdisables, rfl, hsigned, rfl, hclosed hdisables 9, hclosed hdisables 10⟩

end Kippu.Reviewers
