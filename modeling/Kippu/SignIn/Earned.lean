import Kippu.SignIn.Runs
import Kippu.Conc.OneTime

/-!
# Sessions are earned

Ceremonies and challenges are one-time keys, so a session is the only one of its ceremony, and as
no two ceremonies ask for the same challenge, the only one of its answer.
-/

namespace Kippu.SignIn

open Conc

/-- What a session of an organiser or a holder is opened with. -/
inductive Earned (w : Site) (s : State) : Principal → Evidence → Prop
  | signUp : s.begun m = some x → x.kind = .organiserSignUp → t < x.expiresAt →
      w.verifyRegistrationResponse x.challenge r = some p → s.passkeys p.id = some y →
      y.organiser = x.organiser → y.publicKey = p.publicKey →
      s.organisers x.organiser = some x.email → Earned w s (.organiser x.organiser) (.signUp m t r)
  | signIn : s.begun m = some x → x.kind = .organiserSignIn → t < x.expiresAt →
      w.verifyAuthenticationResponse x.challenge p r = some n →
      s.passkeys (w.credentialId r) = some y → y.organiser = x.organiser →
      y.publicKey = p.publicKey → s.organisers x.organiser = some x.email →
      Earned w s (.organiser x.organiser) (.signIn m t r)
  | link : s.asked k = some x → w.isPassWebAuthn a = true →
      w.accountOf a = some (x.account, credential) →
      s.registered x.account credential = some registration →
      w.verifyProofOfControl (w.challenge x) a registration t = true → t < x.expiresAt →
      Earned w s (.holder x.account) (.link k a)

inductive Evidence.SameAnswer : Evidence → Evidence → Prop
  | signUp : SameAnswer (.signUp m t r) (.signUp m' t' r)
  | signIn : SameAnswer (.signIn m t r) (.signIn m' t' r)
  | link : SameAnswer (.link k a) (.link k' a)

inductive Key
  | ceremony (m : CeremonyId)
  | link (k : ChallengeId)
  deriving DecidableEq

def Task.key : Task → Option Key
  | .attesting m .. | .asserting m .. | .verifying m .. => some (.ceremony m)
  | .linking k .. | .proving k .. => some (.link k)
  | .idle | .signingUp _ | .signingIn .. => none

def Evidence.key : Evidence → Option Key
  | .signUp m .. | .signIn m .. => some (.ceremony m)
  | .link k _ => some (.link k)
  | .other => none

def State.oneTime (s : State) : OneTime.State Key Call Token where
  issued
    | .ceremony m => (s.begun m).isSome
    | .link k => (s.asked k).isSome
  waiting
    | .ceremony m => (s.ceremonies m).isSome
    | .link k => (s.links k).isSome
  taken c := (s.task c).key
  made token := (s.sessions token).bind fun x => x.by_.key

variable {w : Site} {s s' s'' s₀ : State} {c : Call} {m : CeremonyId} {k : ChallengeId}
  {token : Token} {t : Task}

-- ---------------------------------------------------------------------------
-- Ceremonies and challenges are one-time keys
-- ---------------------------------------------------------------------------

theorem oneTime_goto : (s.goto c t).oneTime =
    { s.oneTime with taken := Function.update s.oneTime.taken c t.key } :=
  congrArg (fun taken => { s.oneTime with taken }) (Function.comp_update Task.key s.task c t)

theorem oneTime_goto_same (h : t.key = (s.task c).key) : (s.goto c t).oneTime = s.oneTime := by
  rw [oneTime_goto, h]
  exact congrArg (fun taken => { s.oneTime with taken }) (Function.update_eq_self c _)

theorem oneTime_openCeremony {x : Ceremony} : (s.openCeremony m x).oneTime =
    { s.oneTime with
      issued := fun j => j = .ceremony m ∨ s.oneTime.issued j
      waiting := fun j => j = .ceremony m ∨ s.oneTime.waiting j } := by
  simp only [State.oneTime, OneTime.State.mk.injEq]
  refine ⟨funext fun j => ?_, funext fun j => ?_, rfl, rfl⟩
  all_goals
    cases j with
    | ceremony m' =>
      simp only [State.openCeremony, Function.update_apply, Key.ceremony.injEq]
      split <;> simp_all
    | link k => simp [State.openCeremony]

theorem oneTime_ask {x : Link} : (s.ask k x).oneTime =
    { s.oneTime with
      issued := fun j => j = .link k ∨ s.oneTime.issued j
      waiting := fun j => j = .link k ∨ s.oneTime.waiting j } := by
  simp only [State.oneTime, OneTime.State.mk.injEq]
  refine ⟨funext fun j => ?_, funext fun j => ?_, rfl, rfl⟩
  all_goals
    cases j with
    | ceremony m => simp [State.ask]
    | link k' =>
      simp only [State.ask, Function.update_apply, Key.link.injEq]
      split <;> simp_all

theorem oneTime_consumeCeremony : (s.consumeCeremony m).oneTime =
    { s.oneTime with waiting := fun j => j ≠ .ceremony m ∧ s.oneTime.waiting j } := by
  simp only [State.oneTime, OneTime.State.mk.injEq]
  refine ⟨rfl, funext fun j => ?_, rfl, rfl⟩
  cases j with
  | ceremony m' =>
    simp only [State.consumeCeremony, Function.update_apply, ne_eq, Key.ceremony.injEq]
    split <;> simp_all
  | link k => simp [State.consumeCeremony]

theorem oneTime_consumeLink : (s.consumeLink k).oneTime =
    { s.oneTime with waiting := fun j => j ≠ .link k ∧ s.oneTime.waiting j } := by
  simp only [State.oneTime, OneTime.State.mk.injEq]
  refine ⟨rfl, funext fun j => ?_, rfl, rfl⟩
  cases j with
  | ceremony m => simp [State.consumeLink]
  | link k' =>
    simp only [State.consumeLink, Function.update_apply, ne_eq, Key.link.injEq]
    split <;> simp_all

theorem oneTime_issueSession {x : Session} : (s.issueSession token x).oneTime =
    { s.oneTime with made := Function.update s.oneTime.made token x.by_.key } := by
  simp only [State.oneTime, OneTime.State.mk.injEq]
  refine ⟨rfl, rfl, rfl, funext fun token' => ?_⟩
  simp only [State.issueSession, Function.update_apply]
  split <;> rfl

theorem oneTime_revoke {picked : Session → Bool} {at_ : Time} :
    (s.revoke picked at_).oneTime = s.oneTime := by
  simp only [State.oneTime, OneTime.State.mk.injEq]
  refine ⟨rfl, rfl, rfl, funext fun token => ?_⟩
  simp only [State.revoke]
  cases s.sessions token with
  | none => rfl
  | some x =>
    simp only [Option.map_some, Option.bind_some]
    split <;> rfl

theorem taken_eq (hc : s.task c = t) : s.oneTime.taken c = t.key := congrArg Task.key hc

theorem waiting_ceremony {x : Ceremony} (hm : s.ceremonies m = some x) :
    s.oneTime.waiting (.ceremony m) := by
  simp [State.oneTime, hm]

theorem waiting_link {x : Link} (hk : s.links k = some x) : s.oneTime.waiting (.link k) := by
  simp [State.oneTime, hk]

theorem State.Fresh.made {i : SessionId} (hf : s.Fresh token i) : s.oneTime.made token = none := by
  simp [State.oneTime, hf.token]

theorem Step.oneTime (h : Step w s s') : OneTime.Step s.oneTime s'.oneTime := by
  cases h with
  | ticks | registers | disables => exact .same
  | looksUp c _ hc | finds c _ hc =>
    rw [oneTime_goto_same (by rw [hc]; rfl)]
    exact .same
  | opensSignUp m _ _ _ hc _ hn | opensSignIn m _ _ hc _ hn =>
    rw [oneTime_goto_same (by rw [State.openCeremony, hc]; rfl), oneTime_openCeremony]
    exact .issues _ (by simp [State.oneTime, hn.id])
  | consumesSignUp _ _ hc _ hm | consumesSignIn _ _ hc _ hm =>
    rw [oneTime_goto, oneTime_consumeCeremony]
    exact .takes _ _ (waiting_ceremony hm) (taken_eq hc)
  | signsUp _ _ _ hc _ _ _ _ _ _ hf | signsIn _ _ _ hc _ _ _ _ hf =>
    rw [oneTime_goto, oneTime_issueSession]
    exact .makes _ _ (taken_eq hc) hf.made
  | looksFor hc _ _ | readsRegistration hc _ _ _ =>
    rw [oneTime_goto_same (by rw [hc]; rfl)]
    exact .same
  | wastes m =>
    rw [oneTime_consumeCeremony]
    exact .wastes _
  | asks k _ _ _ _ hn =>
    rw [oneTime_ask]
    exact .issues _ (by simp [State.oneTime, hn.id])
  | consumesLink _ hc hk =>
    rw [oneTime_goto, oneTime_consumeLink]
    exact .takes _ _ (waiting_link hk) (taken_eq hc)
  | links _ _ _ _ hc _ _ _ _ hf =>
    rw [oneTime_goto, oneTime_issueSession]
    exact .makes _ _ (taken_eq hc) hf.made
  | signsOut | revokes =>
    rw [oneTime_revoke]
    exact .same
  | opensOther token _ _ _ hf =>
    rw [oneTime_issueSession, Evidence.key, ← hf.made, Function.update_eq_self]
    exact .same
  | stops c =>
    rw [oneTime_goto]
    exact .drops c

-- ---------------------------------------------------------------------------
-- What stays
-- ---------------------------------------------------------------------------

/-- Nothing that was recorded changes, but sign counts, and that a session is revoked. -/
structure Keeps (s s' : State) : Prop where
  organisers : ∀ o email, s.organisers o = some email → s'.organisers o = some email
  passkeys : ∀ p x, s.passkeys p = some x → ∃ n, s'.passkeys p = some { x with signCount := n }
  begun : ∀ m x, s.begun m = some x → s'.begun m = some x
  asked : ∀ k x, s.asked k = some x → s'.asked k = some x
  registered : ∀ account credential registration,
    s.registered account credential = some registration →
      s'.registered account credential = some registration
  sessions : ∀ token x, s.sessions token = some x →
    ∃ at_, s'.sessions token = some { x with revokedAt := at_ } ∧ (x.revokedAt.isSome → at_.isSome)

theorem Keeps.refl (s : State) : Keeps s s where
  organisers _ _ h := h
  passkeys _ x h := ⟨x.signCount, h⟩
  begun _ _ h := h
  asked _ _ h := h
  registered _ _ _ h := h
  sessions _ x h := ⟨x.revokedAt, h, id⟩

theorem Keeps.trans (h : Keeps s s') (h' : Keeps s' s'') : Keeps s s'' where
  organisers o email ho := h'.organisers o email (h.organisers o email ho)
  passkeys p x hp := by
    obtain ⟨n, hn⟩ := h.passkeys p x hp
    have hp' := h'.passkeys p _ hn
    exact hp'
  begun m x hm := h'.begun m x (h.begun m x hm)
  asked k x hk := h'.asked k x (h.asked k x hk)
  registered account credential r hr :=
    h'.registered account credential r (h.registered account credential r hr)
  sessions token x hx := by
    obtain ⟨at_, hat, hsome⟩ := h.sessions token x hx
    obtain ⟨at', hat', hsome'⟩ := h'.sessions token _ hat
    exact ⟨at', hat', fun h => hsome' (hsome h)⟩

theorem update_some {α β : Type} [DecidableEq α] {f : α → Option β} {a b : α} {x y : β}
    (hn : f a = none) (h : f b = some y) : Function.update f a (some x) b = some y := by
  have hne : b ≠ a := fun he => by rw [he, hn] at h; cases h
  rw [Function.update_of_ne hne]
  exact h

theorem keeps_openCeremony {x : Ceremony} (hn : s.begun m = none) : Keeps s (s.openCeremony m x) :=
  { Keeps.refl s with begun := fun _ _ h => update_some hn h }

theorem keeps_ask {x : Link} (hn : s.asked k = none) : Keeps s (s.ask k x) :=
  { Keeps.refl s with asked := fun _ _ h => update_some hn h }

theorem keeps_setOrganiser {o : OrganiserId} {email : Email} (hn : s.organisers o = none) :
    Keeps s (s.setOrganiser o email) :=
  { Keeps.refl s with organisers := fun _ _ h => update_some hn h }

theorem keeps_addPasskey {p : PasskeyId} {x : Passkey} (hn : s.passkeys p = none) :
    Keeps s (s.setPasskey p x) :=
  { Keeps.refl s with passkeys := fun _ y h => ⟨y.signCount, update_some hn h⟩ }

theorem keeps_countPasskey {p : PasskeyId} {x : Passkey} {n : ℕ} (hp : s.passkeys p = some x) :
    Keeps s (s.setPasskey p { x with signCount := n }) :=
  { Keeps.refl s with
    passkeys := fun q y hq => by
      simp only [State.setPasskey, Function.update_apply]
      split
      next he =>
        rw [he, hp] at hq
        exact ⟨n, Option.some.inj hq ▸ rfl⟩
      next => exact ⟨y.signCount, hq⟩ }

theorem keeps_issueSession {x : Session} (hn : s.sessions token = none) :
    Keeps s (s.issueSession token x) :=
  { Keeps.refl s with sessions := fun _ y h => ⟨y.revokedAt, update_some hn h, id⟩ }

theorem keeps_revoke {picked : Session → Bool} {at_ : Time} : Keeps s (s.revoke picked at_) :=
  { Keeps.refl s with
    sessions := fun token x h => by
      simp only [State.revoke, h, Option.map_some]
      split
      · exact ⟨some at_, rfl, fun _ => rfl⟩
      · exact ⟨x.revokedAt, rfl, id⟩ }

theorem keeps_register {account : AccountId} {credential : CredentialId}
    {registration : Registration} (hn : s.registered account credential = none) :
    Keeps s (s.register account credential registration) :=
  { Keeps.refl s with
    registered := fun account' credential' r h => by
      simp only [State.register, Function.update_apply]
      split
      next he =>
        subst he
        exact update_some hn h
      next => exact h }

theorem Step.keeps (h : Step w s s') : Keeps s s' := by
  cases h with
  | ticks | looksUp | finds | looksFor | wastes | consumesSignUp | consumesSignIn | consumesLink
  | readsRegistration | disables | stops => exact { Keeps.refl s with }
  | opensSignUp _ _ _ _ _ _ hn => exact { keeps_openCeremony hn.id with }
  | opensSignIn _ _ _ _ _ hn => exact { keeps_openCeremony hn.id with }
  | signsUp _ _ _ _ _ _ ho _ hp _ hf =>
    exact { ((keeps_setOrganiser ho).trans (keeps_addPasskey hp)).trans
      (keeps_issueSession hf.token) with }
  | signsIn _ _ _ _ _ _ hp _ hf =>
    exact { (keeps_countPasskey hp).trans (keeps_issueSession hf.token) with }
  | asks _ _ _ _ _ hn => exact keeps_ask hn.id
  | links _ _ _ _ _ _ _ _ _ hf => exact { keeps_issueSession hf.token with }
  | signsOut | revokes => exact keeps_revoke
  | registers _ hn => exact keeps_register hn
  | opensOther _ _ _ _ hf => exact keeps_issueSession hf.token

theorem Earned.mono {p : Principal} {e : Evidence} (h : Earned w s p e) (hk : Keeps s s') :
    Earned w s' p e := by
  cases h with
  | signUp hm hkind ht hv hp hy hkey ho =>
    obtain ⟨n, hn⟩ := hk.passkeys _ _ hp
    exact .signUp (hk.begun _ _ hm) hkind ht hv hn hy hkey (hk.organisers _ _ ho)
  | signIn hm hkind ht hv hp hy hkey ho =>
    obtain ⟨n, hn⟩ := hk.passkeys _ _ hp
    exact .signIn (hk.begun _ _ hm) hkind ht hv hn hy hkey (hk.organisers _ _ ho)
  | link hl hw ha hr hv ht =>
    exact .link (hk.asked _ _ hl) hw ha (hk.registered _ _ _ hr) hv ht

-- ---------------------------------------------------------------------------
-- The invariant
-- ---------------------------------------------------------------------------

structure Consumed (s : State) (kind : CeremonyKind) (m : CeremonyId) (x : Ceremony) (at_ : Time) :
    Prop where
  begun : s.begun m = some x
  kind : x.kind = kind
  live : at_ < x.expiresAt

def TaskOk (w : Site) (s : State) : Task → Prop
  | .idle | .signingUp _ => True
  | .signingIn o email => s.organisers o = some email
  | .attesting m x at_ _ => Consumed s .organiserSignUp m x at_
  | .asserting m x at_ _ => Consumed s .organiserSignIn m x at_
  | .verifying m x at_ r p => Consumed s .organiserSignIn m x at_ ∧ p.organiser = x.organiser ∧
      ∃ n, s.passkeys (w.credentialId r) = some { p with signCount := n }
  | .linking k x _ => s.asked k = some x
  | .proving k x a credential registration => s.asked k = some x ∧ w.isPassWebAuthn a = true ∧
      w.accountOf a = some (x.account, credential) ∧
      s.registered x.account credential = some registration

inductive SessionOk (w : Site) (s : State) (x : Session) : Prop
  | earned : Earned w s x.principal x.by_ → SessionOk w s x
  | operator : x.by_ = .other → x.principal = .operator operator organiser → SessionOk w s x
  | reviewer : x.by_ = .other → x.principal = .reviewer reviewer → SessionOk w s x

structure Inv (w : Site) (s : State) : Prop where
  once : OneTime.Inv s.oneTime
  ceremonies : ∀ m x, s.ceremonies m = some x → s.begun m = some x
  links : ∀ k x, s.links k = some x → s.asked k = some x
  tasks : ∀ c, TaskOk w s (s.task c)
  signIns : ∀ m x, s.begun m = some x → x.kind = .organiserSignIn →
    s.organisers x.organiser = some x.email
  challenges : ∀ m m' x x', s.begun m = some x → s.begun m' = some x' →
    x.challenge = x'.challenge → m = m'
  nonces : ∀ k k' x x', s.asked k = some x → s.asked k' = some x' → x.nonce = x'.nonce → k = k'
  emails : ∀ o o' email, s.organisers o = some email → s.organisers o' = some email → o = o'
  sessions : ∀ token x, s.sessions token = some x → SessionOk w s x

theorem Consumed.mono {kind : CeremonyKind} {x : Ceremony} {at_ : Time}
    (h : Consumed s kind m x at_) (hk : Keeps s s') : Consumed s' kind m x at_ :=
  ⟨hk.begun m x h.begun, h.kind, h.live⟩

theorem TaskOk.mono (h : TaskOk w s t) (hk : Keeps s s') : TaskOk w s' t := by
  cases t with
  | idle | signingUp => trivial
  | signingIn o email => exact hk.organisers o email h
  | attesting | asserting => exact Consumed.mono h hk
  | verifying m x at_ r p =>
    obtain ⟨hc, ho, n, hn⟩ := h
    have hp := hk.passkeys _ _ hn
    exact ⟨hc.mono hk, ho, hp⟩
  | linking k x => exact hk.asked k x h
  | proving k x a credential r => exact ⟨hk.asked k x h.1, h.2.1, h.2.2.1, hk.registered _ _ _ h.2.2.2⟩

theorem SessionOk.mono {x : Session} (h : SessionOk w s x) (hk : Keeps s s') : SessionOk w s' x := by
  cases h with
  | earned h => exact .earned (h.mono hk)
  | operator hb hp => exact .operator hb hp
  | reviewer hb hp => exact .reviewer hb hp

theorem goto_tasks (hi : ∀ c, TaskOk w s (s.task c)) (hk : Keeps s s')
    (ht : s'.task = Function.update s.task c t) (hok : TaskOk w s' t) (c' : Call) :
    TaskOk w s' (s'.task c') := by
  rw [ht, Function.update_apply]
  split
  · exact hok
  · exact (hi c').mono hk

theorem Inv.known (hi : Inv w s) (hc : s.task c = t) : TaskOk w s t := hc ▸ hi.tasks c

theorem Inv.tasks_step (hi : Inv w s) (h : Step w s s') : ∀ c, TaskOk w s' (s'.task c) := by
  have hk := h.keeps
  cases h with
  | ticks | wastes | asks | signsOut | registers | opensOther | revokes | disables =>
    exact fun c => (hi.tasks c).mono hk
  | looksUp | opensSignUp | opensSignIn | signsUp | signsIn | links | stops =>
    exact goto_tasks hi.tasks hk rfl trivial
  | finds c o _ ho => exact goto_tasks hi.tasks hk rfl ho
  | consumesSignUp _ _ _ _ hm hkind hlive | consumesSignIn _ _ _ _ hm hkind hlive =>
    exact goto_tasks hi.tasks hk rfl ⟨hi.ceremonies _ _ hm, hkind, hlive⟩
  | looksFor hc hp ho => exact goto_tasks hi.tasks hk rfl ⟨Consumed.mono (hi.known hc) hk, ho, _, hp⟩
  | consumesLink _ _ hl => exact goto_tasks hi.tasks hk rfl (hi.links _ _ hl)
  | readsRegistration hc hw ha hr => exact goto_tasks hi.tasks hk rfl ⟨hi.known hc, hw, ha, hr⟩

theorem Inv.ceremonies_step (hi : Inv w s) (h : Step w s s') :
    ∀ m x, s'.ceremonies m = some x → s'.begun m = some x := by
  have hopen : ∀ m x, ∀ m' x', (s.openCeremony m x).ceremonies m' = some x' →
      (s.openCeremony m x).begun m' = some x' := by
    intro m x m' x' h
    simp only [State.openCeremony, Function.update_apply] at h ⊢
    split at h
    next he => rwa [if_pos he]
    next he => rw [if_neg he]; exact hi.ceremonies m' x' h
  have hconsume : ∀ m m' x', (s.consumeCeremony m).ceremonies m' = some x' →
      s.begun m' = some x' := by
    intro m m' x' h
    simp only [State.consumeCeremony, Function.update_apply] at h
    split at h
    · cases h
    · exact hi.ceremonies m' x' h
  cases h with
  | opensSignUp | opensSignIn => exact hopen _ _
  | consumesSignUp | consumesSignIn | wastes => exact hconsume _
  | _ => exact hi.ceremonies

theorem Inv.links_step (hi : Inv w s) (h : Step w s s') :
    ∀ k x, s'.links k = some x → s'.asked k = some x := by
  cases h with
  | asks k _ _ _ =>
    intro k' x' h
    simp only [State.ask, Function.update_apply] at h ⊢
    split at h
    next he => rwa [if_pos he]
    next he => rw [if_neg he]; exact hi.links k' x' h
  | consumesLink =>
    intro k' x' h
    simp only [State.goto, State.consumeLink, Function.update_apply] at h
    split at h
    · cases h
    · exact hi.links k' x' h
  | _ => exact hi.links

theorem update_eq_some {α β : Type} [DecidableEq α] {f : α → Option β} {a b : α} {x y : β}
    (h : Function.update f a (some x) b = some y) : b = a ∧ y = x ∨ f b = some y := by
  rw [Function.update_apply] at h
  split at h
  next he => exact .inl ⟨he, (Option.some.inj h).symm⟩
  next => exact .inr h

theorem Inv.signIns_step (hi : Inv w s) (h : Step w s s') :
    ∀ m x, s'.begun m = some x → x.kind = .organiserSignIn →
      s'.organisers x.organiser = some x.email := by
  have hk := h.keeps
  have hold : ∀ m x, s.begun m = some x → x.kind = .organiserSignIn →
      s'.organisers x.organiser = some x.email :=
    fun m x hm hkind => hk.organisers _ _ (hi.signIns m x hm hkind)
  cases h with
  | opensSignUp =>
    intro m' x' hm hkind
    obtain ⟨-, rfl⟩ | hm := update_eq_some hm
    · cases hkind
    · exact hold m' x' hm hkind
  | opensSignIn _ _ _ hc =>
    intro m' x' hm hkind
    obtain ⟨-, rfl⟩ | hm := update_eq_some hm
    · exact hi.known hc
    · exact hold m' x' hm hkind
  | _ => exact hold

theorem Inv.challenges_step (hi : Inv w s) (h : Step w s s') :
    ∀ m m' x x', s'.begun m = some x → s'.begun m' = some x' → x.challenge = x'.challenge →
      m = m' := by
  have hopen : ∀ {m x}, s.Unused m x.challenge → ∀ m₁ m₂ x₁ x₂,
      (s.openCeremony m x).begun m₁ = some x₁ → (s.openCeremony m x).begun m₂ = some x₂ →
      x₁.challenge = x₂.challenge → m₁ = m₂ := by
    intro m x hn m₁ m₂ x₁ x₂ h₁ h₂ he
    obtain ⟨rfl, rfl⟩ | hold₁ := update_eq_some h₁
    · obtain ⟨rfl, -⟩ | hold₂ := update_eq_some h₂
      · rfl
      · exact absurd he.symm (hn.challenge _ _ hold₂)
    · obtain ⟨rfl, rfl⟩ | hold₂ := update_eq_some h₂
      · exact absurd he (hn.challenge _ _ hold₁)
      · exact hi.challenges m₁ m₂ x₁ x₂ hold₁ hold₂ he
  cases h with
  | opensSignUp _ _ _ _ _ _ hn | opensSignIn _ _ _ _ _ hn => exact hopen hn
  | _ => exact hi.challenges

theorem Inv.nonces_step (hi : Inv w s) (h : Step w s s') :
    ∀ k k' x x', s'.asked k = some x → s'.asked k' = some x' → x.nonce = x'.nonce → k = k' := by
  cases h with
  | asks k _ _ _ _ hn =>
    intro k₁ k₂ x₁ x₂ h₁ h₂ he
    obtain ⟨rfl, rfl⟩ | hold₁ := update_eq_some h₁
    · obtain ⟨rfl, -⟩ | hold₂ := update_eq_some h₂
      · rfl
      · exact absurd he.symm (hn.nonce _ _ hold₂)
    · obtain ⟨rfl, rfl⟩ | hold₂ := update_eq_some h₂
      · exact absurd he (hn.nonce _ _ hold₁)
      · exact hi.nonces k₁ k₂ x₁ x₂ hold₁ hold₂ he
  | _ => exact hi.nonces

theorem Inv.emails_step (hi : Inv w s) (h : Step w s s') :
    ∀ o o' email, s'.organisers o = some email → s'.organisers o' = some email → o = o' := by
  cases h with
  | signsUp _ _ _ _ _ _ _ hemail =>
    intro o o' email ho ho'
    obtain ⟨rfl, rfl⟩ | ho := update_eq_some ho
    · obtain ⟨rfl, -⟩ | ho' := update_eq_some ho'
      · rfl
      · exact absurd ho' (hemail o')
    · obtain ⟨rfl, rfl⟩ | ho' := update_eq_some ho'
      · exact absurd ho (hemail o)
      · exact hi.emails o o' email ho ho'
  | _ => exact hi.emails

theorem sessions_revoke {picked : Session → Bool} {at_ : Time} {y : Session}
    (h : (s.revoke picked at_).sessions token = some y) :
    ∃ x, s.sessions token = some x ∧ y.principal = x.principal ∧ y.by_ = x.by_ := by
  obtain ⟨x, hx, rfl⟩ := Option.map_eq_some_iff.mp h
  refine ⟨x, hx, ?_⟩
  split <;> exact ⟨rfl, rfl⟩

theorem SessionOk.of_eq {x y : Session} (h : SessionOk w s x) (hp : y.principal = x.principal)
    (hb : y.by_ = x.by_) : SessionOk w s y := by
  cases h with
  | earned h =>
    rw [← hp, ← hb] at h
    exact .earned h
  | operator h h' => exact .operator (hb.trans h) (hp.trans h')
  | reviewer h h' => exact .reviewer (hb.trans h) (hp.trans h')

theorem Inv.sessions_step (hw : w.Lawful) (hi : Inv w s) (h : Step w s s') :
    ∀ token x, s'.sessions token = some x → SessionOk w s' x := by
  have hk := h.keeps
  have hissue : ∀ {s₁ : State} {token x}, s₁.sessions = s.sessions → SessionOk w s' x →
      ∀ token' x', (s₁.issueSession token x).sessions token' = some x' → SessionOk w s' x' := by
    intro s₁ token x hs hok token' x' hx'
    obtain ⟨-, rfl⟩ | hold := update_eq_some hx'
    · exact hok
    · exact (hi.sessions token' x' (hs ▸ hold)).mono hk
  have hrevoke : ∀ {picked at_} token y, (s.revoke picked at_).sessions token = some y →
      Keeps s (s.revoke picked at_) → SessionOk w (s.revoke picked at_) y := by
    intro picked at_ token y hy hk
    obtain ⟨x, hx, hp, hb⟩ := sessions_revoke hy
    exact ((hi.sessions token x hx).mono hk).of_eq hp hb
  cases h with
  | signsUp _ _ _ hc hv =>
    have hc := hi.known hc
    exact hissue rfl (.earned (.signUp hc.begun hc.kind hc.live hv (Function.update_self ..) rfl rfl
      (Function.update_self ..)))
  | signsIn _ _ _ hc hv _ hp =>
    obtain ⟨hc, ho, n, hp'⟩ := hi.known hc
    rw [hp'] at hp
    obtain rfl := Option.some.inj hp
    exact hissue rfl (.earned (.signIn hc.begun hc.kind hc.live hv (Function.update_self ..) ho rfl
      (hi.signIns _ _ hc.begun hc.kind)))
  | links _ _ _ _ hc hv =>
    obtain ⟨hasked, hpass, ha, hr⟩ := hi.known hc
    exact hissue rfl (.earned (.link hasked hpass ha hr hv (hw.control _ _ _ _ hv).2))
  | signsOut | revokes => exact fun token y hy => hrevoke token y hy hk
  | opensOther _ _ _ hp =>
    rcases hp with rfl | rfl
    · exact hissue rfl (.operator rfl rfl)
    · exact hissue rfl (.reviewer rfl rfl)
  | _ => exact fun token x hx => (hi.sessions token x hx).mono hk

theorem Inv.step (hw : w.Lawful) (hi : Inv w s) (h : Step w s s') : Inv w s' where
  once := hi.once.step h.oneTime
  ceremonies := hi.ceremonies_step h
  links := hi.links_step h
  tasks := hi.tasks_step h
  signIns := hi.signIns_step h
  challenges := hi.challenges_step h
  nonces := hi.nonces_step h
  emails := hi.emails_step h
  sessions := hi.sessions_step hw h

theorem State.Initial.inv (h : s.Initial) : Inv w s where
  once :=
    { waiting := fun k hk => by cases k <;> simp [State.oneTime, h.ceremonies, h.links] at hk
      taken := fun c k hk => by simp [State.oneTime, h.task, Task.key] at hk
      made := fun token k hk => by simp [State.oneTime, h.sessions] at hk }
  ceremonies m x hm := by simp [h.ceremonies] at hm
  links k x hk := by simp [h.links] at hk
  tasks c := by rw [h.task]; trivial
  signIns m x hm := by simp [h.begun] at hm
  challenges m _ x _ hm := by simp [h.begun] at hm
  nonces k _ x _ hk := by simp [h.asked] at hk
  emails o _ email ho := by simp [h.organisers] at ho
  sessions token x hx := by simp [h.sessions] at hx

theorem Inv.steps (hw : w.Lawful) (hi : Inv w s) (h : Steps w s s') : Inv w s' := by
  induction h with
  | refl => exact hi
  | step _ h ih => exact ih.step hw h

-- ---------------------------------------------------------------------------
-- Sessions are earned, and once
-- ---------------------------------------------------------------------------

theorem made_eq {x : Session} {j : Key} (hx : s.sessions token = some x) (hk : x.by_.key = some j) :
    s.oneTime.made token = some j := by
  simp [State.oneTime, hx, hk]

/-- Two sessions of one answer are of one ceremony: an answer has one challenge, and that was issued
once. -/
theorem Inv.sameAnswer (hw : w.Lawful) (hi : Inv w s) {e e' : Evidence} {p p' : Principal}
    (h : Earned w s p e) (h' : Earned w s p' e') (hsame : e.SameAnswer e') :
    ∃ j, e.key = some j ∧ e'.key = some j := by
  cases hsame with
  | signUp =>
    cases h with | signUp hm _ _ hv =>
    cases h' with | signUp hm' _ _ hv' =>
    have hc := (hw.registration _ _ _ hv).symm.trans (hw.registration _ _ _ hv')
    obtain rfl := hi.challenges _ _ _ _ hm hm' hc
    exact ⟨_, rfl, rfl⟩
  | signIn =>
    cases h with | signIn hm _ _ hv =>
    cases h' with | signIn hm' _ _ hv' =>
    have hc := (hw.authentication _ _ _ _ hv).symm.trans (hw.authentication _ _ _ _ hv')
    obtain rfl := hi.challenges _ _ _ _ hm hm' hc
    exact ⟨_, rfl, rfl⟩
  | link =>
    cases h with | link hl _ _ _ hv =>
    cases h' with | link hl' _ _ _ hv' =>
    have hc := (hw.control _ _ _ _ hv).1.symm.trans (hw.control _ _ _ _ hv').1
    obtain rfl := hi.nonces _ _ _ _ hl hl' (congrArg ProofOfControl.nonce hc)
    exact ⟨_, rfl, rfl⟩

theorem SessionOk.earned_of {x : Session} {e : Evidence} (h : SessionOk w s x)
    (hsame : x.by_.SameAnswer e ∨ e.SameAnswer x.by_) : Earned w s x.principal x.by_ := by
  cases h with
  | earned h => exact h
  | operator hb | reviewer hb =>
    rw [hb] at hsame
    rcases hsame with h | h <;> cases h

/-- Any number of organisers and holders sign up and in, in any order, and their calls stop at any
point. An organiser's session was opened by an answer, verified with a passkey of theirs, to a
ceremony for their email that was consumed in time; a holder's, by a proof of control of their
account with a credential registered on the ledger. No answer opens two sessions. No two
organisers have one email. -/
theorem sessions_earned (hw : w.Lawful) (h : s₀.Initial) (hs : Steps w s₀ s) :
    (∀ token x, s.sessions token = some x →
      (∃ o, x.principal = .organiser o) ∨ (∃ account, x.principal = .holder account) →
        Earned w s x.principal x.by_) ∧
    (∀ token token' x x', s.sessions token = some x → s.sessions token' = some x' →
      x.by_.SameAnswer x'.by_ → token = token') ∧
    ∀ o o' email, s.organisers o = some email → s.organisers o' = some email → o = o' := by
  have hi := h.inv.steps hw hs
  refine ⟨fun token x hx hp => ?_, fun token token' x x' hx hx' hsame => ?_, hi.emails⟩
  · cases hi.sessions token x hx with
    | earned h => exact h
    | operator _ he | reviewer _ he =>
      rw [he] at hp
      rcases hp with ⟨_, hp⟩ | ⟨_, hp⟩ <;> cases hp
  · have he := (hi.sessions token x hx).earned_of (.inl hsame)
    have he' := (hi.sessions token' x' hx').earned_of (.inr hsame)
    obtain ⟨j, hj, hj'⟩ := hi.sameAnswer hw he he' hsame
    exact hi.once.made_once (made_eq hx hj) (made_eq hx' hj')

/-- Answers are the challenges they answer, and the only passkey is that of challenge 0. -/
def demoSite : Site where
  relyingParty := "login.kippu.example"
  verifyRegistrationResponse challenge r := if r = challenge then some ⟨r, r, 0⟩ else none
  verifyAuthenticationResponse challenge p r := if r = challenge then some (p.signCount + 1) else none
  credentialId _ := 0
  isPassWebAuthn _ := true
  accountOf a := some (a, a)
  verifyProofOfControl proof a _ t :=
    proof = ⟨"kippu-api@login.kippu.example", a, HOLDER_CHALLENGE_MS, a⟩ ∧ t < HOLDER_CHALLENGE_MS
  attests r := r
  asserts r := r
  proves a := ⟨"kippu-api@login.kippu.example", a, HOLDER_CHALLENGE_MS, a⟩

theorem demoSite_lawful : demoSite.Lawful where
  registration challenge r p h := by
    simp only [demoSite, Option.ite_none_right_eq_some] at h
    exact h.1
  authentication challenge p r n h := by
    simp only [demoSite, Option.ite_none_right_eq_some] at h
    exact h.1
  control proof a registration t h := by
    obtain ⟨rfl, ht⟩ := of_decide_eq_true h
    exact ⟨rfl, ht⟩

def State.start : State where
  organisers _ := none
  passkeys _ := none
  ceremonies _ := none
  links _ := none
  sessions _ := none
  disabled _ := false
  registered _ _ := none
  task _ := .idle
  clock := 0
  begun _ := none
  asked _ := none

theorem State.start_initial : State.start.Initial :=
  ⟨fun _ => rfl, fun _ => rfl, fun _ => rfl, fun _ => rfl, fun _ => rfl, fun _ => rfl,
    fun _ => rfl, fun _ => rfl⟩

theorem unused_one {x : Ceremony} (hb : s.begun = Function.update (fun _ => none) 0 (some x))
    (hx : x.challenge = 0) : s.Unused 1 1 where
  id := by rw [hb]; rfl
  challenge m y hm := by
    rw [hb] at hm
    obtain ⟨-, rfl⟩ | hold := update_eq_some hm
    · rw [hx]
      decide
    · cases hold

theorem fresh_one {x : Session} (hx : x.id = 0) (hs : s.sessions =
      Function.update (fun _ => none) (base64url (List.replicate 32 0)) (some x)) :
    s.Fresh (base64url (List.replicate 32 1)) 1 where
  token := by
    rw [hs]
    exact Function.update_of_ne (by decide) _ _
  id token y hy := by
    rw [hs] at hy
    obtain ⟨-, rfl⟩ | hold := update_eq_some hy
    · rw [hx]
      decide
    · cases hold

theorem issued_sessions {x : Session} :
    ((s.issueSession token x).goto c t).sessions token = some x :=
  Function.update_self ..

/-- An organiser signs up, and then in. -/
theorem demo_signsIn : ∃ s x, Steps demoSite State.start s ∧
    s.sessions (base64url (List.replicate 32 1)) = some x ∧
    x = ⟨1, .organiser 5, none, ORGANISER_SESSION_MS, none, .signIn 1 0 1⟩ := by
  have h₁ : Steps demoSite State.start _ :=
    Steps.refl.step (.looksUp 0 "ada@example.org" rfl fun _ h => by cases h)
  have h₂ := h₁.step (.opensSignUp (c := 0) 0 5 0 0 rfl (Nat.le_refl _)
    ⟨rfl, fun _ _ h => by cases h⟩)
  have h₃ := h₂.step (.consumesSignUp (c := 0) (m := 0) 0 0 rfl (Nat.le_refl _) rfl rfl (by decide))
  have h₄ := h₃.step (.signsUp (c := 0) (List.replicate 32 0) 0 0 rfl rfl (Nat.le_refl _) rfl
    (fun _ h => by cases h) rfl rfl ⟨rfl, fun _ _ h => by cases h⟩)
  have h₅ := h₄.step (.finds 0 5 rfl rfl)
  have h₆ := h₅.step (.opensSignIn (c := 0) 1 1 0 rfl (Nat.le_refl _) (unused_one rfl rfl))
  have h₇ := h₆.step (.consumesSignIn (c := 0) (m := 1) 0 1 rfl (Nat.le_refl _) rfl rfl (by decide))
  have h₈ := h₇.step (.looksFor (c := 0) rfl rfl rfl)
  have h₉ := h₈.step (.signsIn (c := 0) (List.replicate 32 1) 1 0 rfl rfl (Nat.le_refl _) rfl rfl
    (fresh_one rfl rfl))
  exact ⟨_, _, h₉, issued_sessions, rfl⟩

theorem sessions_earned_organiser : ∃ s x, Steps demoSite State.start s ∧
    s.sessions (base64url (List.replicate 32 1)) = some x ∧ x.by_ = .signIn 1 0 1 ∧
    Earned demoSite s x.principal x.by_ := by
  obtain ⟨s, x, hs, hx, rfl⟩ := demo_signsIn
  exact ⟨s, _, hs, hx, rfl,
    (sessions_earned demoSite_lawful State.start_initial hs).1 _ _ hx (.inl ⟨_, rfl⟩)⟩

end Kippu.SignIn
