import Kippu.Pairing.Runs

/-!
# Only a paired account buys

The guards of the statements differ, but each leaves a confirmed link alone, and a link
is confirmed only for an account whose code was submitted; so whatever is bought is
bought for the account that was paired (`only_paired_buys`).
-/

namespace Kippu.Pairing

variable {Secret Digest : Type} {H : Hashing Secret Digest} {s s' s'' s₀ : State Secret Digest}
  {i j : CheckoutId} {t : ℕ} {row row' : Checkout Digest} {x : String} {e : Event Secret}
  {k : Task Secret}

namespace State

def ConfirmedTo (s : State Secret Digest) (i : CheckoutId) (x : String) : Prop :=
  ∃ row, s.checkouts i = some row ∧ row.linkConfirmed = true ∧ row.holderAccount = some x

end State

def Hashing.HandoffOf (H : Hashing Secret Digest) (tokenHash : Digest) (generation : ℕ)
    (handoffTokenHash : Digest) : Prop :=
  ∃ token, H.hashSecret token = tokenHash ∧
    handoffTokenHash = H.hashSecret (H.handoffTokenOf token generation)

/-- A request of the page submitted the code that the account has under a generation in which the
account was linked. -/
def Paired (H : Hashing Secret Digest) (history : List (Event Secret)) (i : CheckoutId)
    (tokenHash : Digest) (x : String) : Prop :=
  ∃ token code generation handoffToken, .submitted i token code ∈ history ∧
    H.hashSecret token = tokenHash ∧ .linked i x generation handoffToken ∈ history ∧
    H.HandoffOf tokenHash generation (H.hashSecret handoffToken) ∧
    code = H.pairingCodeOf tokenHash (H.hashSecret handoffToken) x

/-- The account was the begin request's own, or its link was confirmed. -/
def Confirmed (history : List (Event Secret)) (i : CheckoutId) (x : String) : Prop :=
  (∃ token, .began i token (some x) ∈ history) ∨ .confirmed i x ∈ history

/-- What precedes an event. -/
def Event.Licensed (H : Hashing Secret Digest) (before : List (Event Secret)) :
    Event Secret → Prop
  | .linked i _ _ handoffToken => ∀ generation, .discarded i generation ∈ before →
      ∀ token, handoffToken ≠ H.handoffTokenOf token generation
  | .held i account | .paid i account | .sold i account =>
    ∃ x, account = some x ∧ Confirmed before i x
  | _ => True

structure Checkout.Ok (H : Hashing Secret Digest) (history : List (Event Secret)) (i : CheckoutId)
    (row : Checkout Digest) : Prop where
  handoff : H.HandoffOf row.tokenHash row.handoffGeneration row.handoffTokenHash
  linked : ∀ x, row.holderAccount = some x → row.linkConfirmed = false → ∃ handoffToken,
    .linked i x row.handoffGeneration handoffToken ∈ history ∧
    H.hashSecret handoffToken = row.handoffTokenHash
  confirmed : row.linkConfirmed = true → ∃ x, row.holderAccount = some x ∧
    Confirmed history i x ∧
    ((∃ token, .began i token (some x) ∈ history) ∨ Paired H history i row.tokenHash x)

def Task.Ok (H : Hashing Secret Digest) (s : State Secret Digest) : Task Secret → Prop
  | .link i generation _ handoffToken => ∃ row, s.checkouts i = some row ∧
      generation ≤ row.handoffGeneration ∧ (row.handoffGeneration = generation →
        row.handoffTokenHash = H.hashSecret handoffToken)
  | .confirm i x => ∃ row, s.checkouts i = some row ∧ Paired H s.history i row.tokenHash x
  | .discard i _ token => ∃ row, s.checkouts i = some row ∧ row.tokenHash = H.hashSecret token
  | .hold i account | .pay i account | .sell i account =>
    ∃ x, account = some x ∧ s.ConfirmedTo i x

structure Inv (H : Hashing Secret Digest) (s : State Secret Digest) : Prop where
  checkouts : ∀ i row, s.checkouts i = some row → row.Ok H s.history i
  tasks : ∀ t k, s.tasks t = some k → k.Ok H s
  hosted : ∀ i, s.hosted i → ∃ x, s.ConfirmedTo i x
  /-- A discarded generation is past. -/
  discarded : ∀ i generation, .discarded i generation ∈ s.history → ∃ row,
    s.checkouts i = some row ∧ generation < row.handoffGeneration
  bought : ∀ e i account, e ∈ s.history → e.purchase = some (i, account) →
    ∃ x, account = some x ∧ s.ConfirmedTo i x
  licensed : ∀ after e before, s.history = after ++ e :: before → e.Licensed H before

theorem Inv.initial (h : State.Initial s) : Inv H s where
  checkouts i row hi := by simp [h.checkouts i] at hi
  tasks t k ht := by simp [h.tasks t] at ht
  hosted i hi := (h.hosted i hi).elim
  discarded i g hg := by simp [h.history] at hg
  bought e i a he := by simp [h.history] at he
  licensed after e before he := by simp [h.history] at he

/-! ### What is kept -/

/-- No statement forgets a row's page, takes it back a generation, or undoes its confirmation. -/
structure Grows (row row' : Checkout Digest) : Prop where
  tokenHash : row'.tokenHash = row.tokenHash
  generation : row.handoffGeneration ≤ row'.handoffGeneration
  handoff : row'.handoffGeneration = row.handoffGeneration →
    row'.handoffTokenHash = row.handoffTokenHash
  confirmed : row.linkConfirmed = true →
    row'.linkConfirmed = true ∧ row'.holderAccount = row.holderAccount

theorem Grows.refl (row : Checkout Digest) : Grows row row :=
  ⟨rfl, Nat.le_refl _, fun _ => rfl, fun h => ⟨h, rfl⟩⟩

theorem grows_link (hfree : row.linkConfirmed = false) (x : String) : Grows row (row.link x) :=
  ⟨rfl, Nat.le_refl _, fun _ => rfl, fun h => by simp [hfree] at h⟩

theorem grows_confirm (hfree : row.linkConfirmed = false) : Grows row row.confirm :=
  ⟨rfl, Nat.le_refl _, fun _ => rfl, fun h => by simp [hfree] at h⟩

theorem grows_discard (hfree : row.linkConfirmed = false) (token : Secret) :
    Grows row (row.discard H (row.handoffGeneration + 1) token) where
  tokenHash := rfl
  generation := Nat.le_succ _
  handoff h := absurd h (Nat.succ_ne_self _)
  confirmed h := by simp [hfree] at h

structure Later (s s' : State Secret Digest) : Prop where
  checkouts : ∀ i row, s.checkouts i = some row →
    ∃ row', s'.checkouts i = some row' ∧ Grows row row'
  history : ∀ e ∈ s.history, e ∈ s'.history

theorem Later.of_rows (hrows : s'.checkouts = s.checkouts)
    (hhistory : ∀ e ∈ s.history, e ∈ s'.history) : Later s s' :=
  ⟨fun _ row hi => ⟨row, hrows ▸ hi, Grows.refl row⟩, hhistory⟩

theorem Later.set (hi : s.checkouts i = some row) (hg : Grows row row') (e : Event Secret) :
    Later s ((s.set i row').log e) where
  checkouts j r hj := by
    rcases eq_or_ne j i with rfl | hne
    · obtain rfl := Option.some.inj (hi.symm.trans hj)
      exact ⟨row', by simp [State.set, State.log], hg⟩
    · exact ⟨r, by simpa [State.set, State.log, Function.update_of_ne hne] using hj, Grows.refl r⟩
  history _ he := List.mem_cons_of_mem _ he

theorem Later.begins (hi : s.checkouts i = none) (row : Checkout Digest) (e : Event Secret) :
    Later s ((s.set i row).log e) where
  checkouts j r hj := by
    have hne : j ≠ i := by
      rintro rfl
      cases hi.symm.trans hj
    exact ⟨r, by simpa [State.set, State.log, Function.update_of_ne hne] using hj, Grows.refl r⟩
  history _ he := List.mem_cons_of_mem _ he

theorem Later.log (e : Event Secret) : Later s (s.log e) :=
  Later.of_rows rfl fun _ he => List.mem_cons_of_mem _ he

theorem Later.confirmedTo (h : Later s s') (hc : s.ConfirmedTo i x) : s'.ConfirmedTo i x := by
  obtain ⟨row, hi, hconf, hx⟩ := hc
  obtain ⟨row', hi', hg⟩ := h.checkouts i row hi
  obtain ⟨hconf', hx'⟩ := hg.confirmed hconf
  exact ⟨row', hi', hconf', hx'.trans hx⟩

theorem Later.paired (h : Later s s') {tokenHash : Digest} (hp : Paired H s.history i tokenHash x) :
    Paired H s'.history i tokenHash x := by
  obtain ⟨token, code, g, handoffToken, hsub, htok, hlink, hrest⟩ := hp
  exact ⟨token, code, g, handoffToken, h.history _ hsub, htok, h.history _ hlink, hrest⟩

theorem Later.confirmed (h : Later s s') (hc : Confirmed s.history i x) :
    Confirmed s'.history i x := by
  rcases hc with ⟨token, ht⟩ | hc
  · exact .inl ⟨token, h.history _ ht⟩
  · exact .inr (h.history _ hc)

theorem Later.rowOk (h : Later s s') (hr : row.Ok H s.history i) : row.Ok H s'.history i where
  handoff := hr.handoff
  linked x hx hc := by
    obtain ⟨handoffToken, hl, hh⟩ := hr.linked x hx hc
    exact ⟨handoffToken, h.history _ hl, hh⟩
  confirmed hc := by
    obtain ⟨x, hx, hconf, hwhy⟩ := hr.confirmed hc
    refine ⟨x, hx, h.confirmed hconf, ?_⟩
    rcases hwhy with ⟨token, ht⟩ | hp
    · exact .inl ⟨token, h.history _ ht⟩
    · exact .inr (h.paired hp)

theorem Later.task (h : Later s s') (hk : k.Ok H s) : k.Ok H s' := by
  cases k with
  | link i g y handoffToken =>
    obtain ⟨row, hi, hle, hh⟩ := hk
    obtain ⟨row', hi', hg⟩ := h.checkouts i row hi
    refine ⟨row', hi', hle.trans hg.generation, fun heq => ?_⟩
    have hrow : row.handoffGeneration = g := Nat.le_antisymm (heq ▸ hg.generation) hle
    rw [hg.handoff (heq.trans hrow.symm), hh hrow]
  | confirm i y =>
    obtain ⟨row, hi, hp⟩ := hk
    obtain ⟨row', hi', hg⟩ := h.checkouts i row hi
    exact ⟨row', hi', hg.tokenHash ▸ h.paired hp⟩
  | discard i g token =>
    obtain ⟨row, hi, ht⟩ := hk
    obtain ⟨row', hi', hg⟩ := h.checkouts i row hi
    exact ⟨row', hi', hg.tokenHash.trans ht⟩
  | hold i a | pay i a | sell i a =>
    obtain ⟨y, ha, hc⟩ := hk
    exact ⟨y, ha, h.confirmedTo hc⟩

/-! ### One step -/

theorem Inv.put (hs : Inv H s) (t : ℕ) (new : Option (Task Secret))
    (hnew : ∀ k, new = some k → k.Ok H s) : Inv H (s.put t new) where
  checkouts := hs.checkouts
  tasks u k hu := by
    have hk : k.Ok H s := by
      rcases eq_or_ne u t with rfl | hne
      · exact hnew k (by simpa [State.put] using hu)
      · exact hs.tasks u k (by simpa [State.put, Function.update_of_ne hne] using hu)
    have h : Later s (s.put t new) := Later.of_rows rfl fun _ => id
    exact h.task hk
  hosted := hs.hosted
  discarded := hs.discarded
  bought := hs.bought
  licensed := hs.licensed

theorem Inv.record (hs : Inv H s) (hl : Later s s') (he : s'.history = e :: s.history)
    (htasks : s'.tasks = s.tasks) (hlic : e.Licensed H s.history)
    (hrow : ∀ i row, s'.checkouts i = some row → s.checkouts i = some row ∨
      row.Ok H s'.history i)
    (hhosted : ∀ i, s'.hosted i → s.hosted i ∨ ∃ x, s'.ConfirmedTo i x)
    (hdisc : ∀ i generation, e = .discarded i generation → ∃ row,
      s'.checkouts i = some row ∧ generation < row.handoffGeneration)
    (hbuy : ∀ i account, e.purchase = some (i, account) →
      ∃ x, account = some x ∧ s'.ConfirmedTo i x) : Inv H s' where
  checkouts i row hi := by
    rcases hrow i row hi with hold | hok
    · exact hl.rowOk (hs.checkouts i row hold)
    · exact hok
  tasks t k ht := hl.task (hs.tasks t k (htasks ▸ ht))
  hosted i hi := by
    rcases hhosted i hi with hold | hc
    · obtain ⟨x, hx⟩ := hs.hosted i hold
      exact ⟨x, hl.confirmedTo hx⟩
    · exact hc
  discarded i g hg := by
    rw [he] at hg
    rcases List.mem_cons.mp hg with heq | hg
    · exact hdisc i g heq.symm
    · obtain ⟨row, hi, hlt⟩ := hs.discarded i g hg
      obtain ⟨row', hi', hgr⟩ := hl.checkouts i row hi
      exact ⟨row', hi', Nat.lt_of_lt_of_le hlt hgr.generation⟩
  bought f i a hf hp := by
    rw [he] at hf
    rcases List.mem_cons.mp hf with rfl | hf
    · exact hbuy i a hp
    · obtain ⟨x, hx, hc⟩ := hs.bought f i a hf hp
      exact ⟨x, hx, hl.confirmedTo hc⟩
  licensed after f before hf := by
    rw [he] at hf
    cases after with
    | nil =>
      obtain ⟨rfl, rfl⟩ := List.cons.inj hf
      exact hlic
    | cons g after => exact hs.licensed after f before (List.cons.inj hf).2

theorem Inv.logs (hs : Inv H s) (hlic : e.Licensed H s.history)
    (hdisc : ∀ i generation, e ≠ .discarded i generation) (hbuy : e.purchase = none) :
    Inv H (s.log e) :=
  hs.record (Later.log e) rfl rfl hlic (fun _ _ => .inl) (fun _ => .inl)
    (fun i g h => absurd h (hdisc i g)) (fun i a h => by simp [hbuy] at h)

theorem Inv.sets (hs : Inv H s) (hi : s.checkouts i = some row) (hg : Grows row row')
    (hlic : e.Licensed H s.history) (hrow : row'.Ok H (e :: s.history) i)
    (hdisc : ∀ j generation, e = .discarded j generation →
      j = i ∧ generation < row'.handoffGeneration)
    (hbuy : e.purchase = none) : Inv H ((s.set i row').log e) := by
  refine hs.record (Later.set hi hg e) rfl rfl hlic (fun j r hj => ?_) (fun _ => .inl)
    (fun j g h => ?_) (fun j a h => by simp [hbuy] at h)
  · rcases eq_or_ne j i with rfl | hne
    · obtain rfl : row' = r := by simpa [State.set, State.log] using hj
      exact .inr hrow
    · exact .inl (by simpa [State.set, State.log, Function.update_of_ne hne] using hj)
  · obtain ⟨rfl, hlt⟩ := hdisc j g h
    exact ⟨row', by simp [State.set, State.log], hlt⟩

theorem Checkout.Ok.not_confirmed {history : List (Event Secret)} (h : row.Ok H history i)
    (hx : row.holderAccount = none) : row.linkConfirmed = false := by
  by_contra hc
  obtain ⟨x, hx', -⟩ := h.confirmed (by simpa using hc)
  cases hx.symm.trans hx'

theorem Inv.begins (hs : Inv H s) (hi : s.checkouts i = none) (token : Secret)
    (holder : Option String) :
    Inv H ((s.set i (.begun H token holder)).log (.began i token holder)) := by
  have hl := Later.begins hi (.begun H token holder) (.began i token holder)
  refine hs.record hl rfl rfl trivial (fun j r hj => ?_) (fun _ => .inl) (by simp)
    (by simp [Event.purchase])
  rcases eq_or_ne j i with rfl | hne
  · obtain rfl : Checkout.begun H token holder = r := by simpa [State.set, State.log] using hj
    have hbegan : ∀ x, holder = some x →
        Event.began j token (some x) ∈ Event.began j token holder :: s.history := by
      rintro x rfl
      exact List.mem_cons_self
    refine .inr ⟨⟨token, rfl, rfl⟩, fun x hx hc => ?_, fun hc => ?_⟩
    · obtain rfl : holder = some x := hx
      cases hc
    · obtain ⟨x, rfl⟩ := Option.isSome_iff_exists.mp hc
      exact ⟨x, rfl, .inl ⟨token, hbegan x rfl⟩, .inl ⟨token, hbegan x rfl⟩⟩
  · exact .inl (by simpa [State.set, State.log, Function.update_of_ne hne] using hj)

theorem Inv.links (hc : H.CollisionFree) (hs : Inv H s)
    (ht : s.tasks t = some (.link i generation x token)) (hi : s.checkouts i = some row)
    (hgen : row.handoffGeneration = generation) (hnone : row.holderAccount = none) :
    Inv H ((s.set i (row.link x)).log (.linked i x generation token)) := by
  obtain ⟨r, hr, -, hhash⟩ := hs.tasks t _ ht
  obtain rfl := Option.some.inj (hi.symm.trans hr)
  have hok := hs.checkouts i row hi
  have hfree := hok.not_confirmed hnone
  refine hs.sets hi (grows_link hfree x) ?_ ⟨hok.handoff, ?_, ?_⟩ (by simp) rfl
  · rintro g hg token' rfl
    obtain ⟨r, hr, hlt⟩ := hs.discarded i g hg
    obtain rfl := Option.some.inj (hi.symm.trans hr)
    obtain ⟨page, -, hpage⟩ := hok.handoff
    have heq := hc _ _ _ _ (hpage.symm.trans (hhash hgen))
    omega
  · intro y hy _
    obtain rfl : x = y := Option.some.inj hy
    exact ⟨token, by simp [Checkout.link, hgen], (hhash hgen).symm⟩
  · intro hconf
    simp [Checkout.link, hfree] at hconf

theorem Inv.submits (hs : Inv H s) (hi : s.checkouts i = some row)
    (htoken : row.tokenHash = H.hashSecret token) (hx : row.holderAccount = some x)
    (hcode : pairingCode = H.pairingCodeOf row.tokenHash row.handoffTokenHash x)
    (hconf : row.linkConfirmed = false) (t : ℕ) :
    Inv H ((s.log (.submitted i token pairingCode)).put t (some (.confirm i x))) := by
  have hlogged : Inv H (s.log (.submitted i token pairingCode)) := hs.logs trivial (by simp) rfl
  refine hlogged.put t _ ?_
  rintro k ⟨⟩
  have hok := hs.checkouts i row hi
  obtain ⟨handoffToken, hlink, hhash⟩ := hok.linked x hx hconf
  refine ⟨row, hi, token, pairingCode, row.handoffGeneration, handoffToken, List.mem_cons_self,
    htoken.symm, List.mem_cons_of_mem _ hlink, ?_, ?_⟩
  · rw [hhash]
    exact hok.handoff
  · rw [hhash]
    exact hcode

theorem Inv.confirms (hs : Inv H s) (ht : s.tasks t = some (.confirm i x))
    (hi : s.checkouts i = some row) (hx : row.holderAccount = some x)
    (hconf : row.linkConfirmed = false) :
    Inv H ((s.set i row.confirm).log (.confirmed i x)) := by
  obtain ⟨r, hr, hp⟩ := hs.tasks t _ ht
  obtain rfl := Option.some.inj (hi.symm.trans hr)
  have hok := hs.checkouts i row hi
  refine hs.sets hi (grows_confirm hconf) trivial ⟨hok.handoff, ?_, fun _ => ?_⟩ (by simp) rfl
  · intro y _ hc
    cases hc
  · exact ⟨x, hx, .inr List.mem_cons_self, .inr ((Later.log _).paired hp)⟩

theorem Inv.discards (hs : Inv H s) (ht : s.tasks t = some (.discard i generation token))
    (hi : s.checkouts i = some row) (hgen : row.handoffGeneration = generation)
    (hconf : row.linkConfirmed = false) :
    Inv H ((s.set i (row.discard H (generation + 1) token)).log (.discarded i generation)) := by
  obtain ⟨r, hr, htoken⟩ := hs.tasks t _ ht
  obtain rfl := Option.some.inj (hi.symm.trans hr)
  subst hgen
  refine hs.sets hi (grows_discard hconf token) trivial ⟨?_, ?_, fun h => ?_⟩ ?_ rfl
  · exact ⟨token, htoken.symm, rfl⟩
  · intro y hy
    cases hy
  · simp [Checkout.discard, hconf] at h
  · rintro j g ⟨⟩
    exact ⟨rfl, Nat.lt_succ_self _⟩

theorem Inv.buys {account : Option String} (hs : Inv H s)
    (hbuy : e.purchase = some (i, account)) (hx : ∃ x, account = some x ∧ s.ConfirmedTo i x)
    (he : s'.history = e :: s.history)
    (htasks : s'.tasks = s.tasks) (hrows : s'.checkouts = s.checkouts)
    (hhosted : ∀ j, s'.hosted j → s.hosted j ∨ j = i) : Inv H s' := by
  have hl : Later s s' := Later.of_rows hrows fun _ h => he ▸ List.mem_cons_of_mem _ h
  have hbought : ∃ x, account = some x ∧ s'.ConfirmedTo i x := by
    obtain ⟨x, ha, hc⟩ := hx
    exact ⟨x, ha, hl.confirmedTo hc⟩
  have hconfirmed : ∃ x, account = some x ∧ Confirmed s.history i x := by
    obtain ⟨x, ha, row, hi, hc, hy⟩ := hx
    obtain ⟨y, hy', hconf, -⟩ := (hs.checkouts i row hi).confirmed hc
    obtain rfl := Option.some.inj (hy.symm.trans hy')
    exact ⟨x, ha, hconf⟩
  refine hs.record hl he htasks ?_ (fun j r hj => .inl (hrows ▸ hj)) (fun j hj => ?_)
    (fun j g hg => ?_) (fun j a h => ?_)
  · cases e with
    | held j a | paid j a | sold j a =>
      obtain ⟨rfl, rfl⟩ : j = i ∧ a = account := by simpa [Event.purchase] using hbuy
      exact hconfirmed
    | _ => simp [Event.purchase] at hbuy
  · rcases hhosted j hj with h | rfl
    · exact .inl h
    · obtain ⟨x, -, hc⟩ := hbought
      exact .inr ⟨x, hc⟩
  · simp [hg, Event.purchase] at hbuy
  · obtain ⟨rfl, rfl⟩ : i = j ∧ account = a := by simpa [hbuy] using h
    exact hbought

theorem confirmedTo_of_row (hs : Inv H s) (hi : s.checkouts i = some row)
    (hconf : row.linkConfirmed = true) : ∃ x, row.holderAccount = some x ∧ s.ConfirmedTo i x := by
  obtain ⟨x, hx, -⟩ := (hs.checkouts i row hi).confirmed hconf
  exact ⟨x, hx, row, hi, hconf, hx⟩

theorem Inv.step (hc : H.CollisionFree) (h : Inv H s) (hs : Step H s s') : Inv H s' := by
  cases hs with
  | begins token holder hi => exact h.begins hi token holder
  | findsHandoff token account _ hi hhash =>
    refine h.put _ _ ?_
    rintro k ⟨⟩
    exact ⟨_, hi, Nat.le_refl _, fun _ => hhash⟩
  | links ht hi hgen hnone => exact (h.links hc ht hi hgen hnone).put _ none (by simp)
  | submits token _ hi htoken hx hcode hconf => exact h.submits hi htoken hx hcode hconf _
  | submitsInVain token pairingCode _ _ => exact h.logs trivial (by simp) rfl
  | confirms ht hi hx hconf => exact (h.confirms ht hi hx hconf).put _ none (by simp)
  | findsLink token _ hi htoken _ _ =>
    refine h.put _ _ ?_
    rintro k ⟨⟩
    exact ⟨_, hi, htoken⟩
  | discards ht hi hgen hconf => exact (h.discards ht hi hgen hconf).put _ none (by simp)
  | findsConfirmed token _ hi _ _ hconf | findsHold token _ hi _ _ _ hconf =>
    refine h.put _ _ ?_
    rintro k ⟨⟩
    exact confirmedTo_of_row h hi hconf
  | findsHosted _ hi hhosted =>
    refine h.put _ _ ?_
    rintro k ⟨⟩
    obtain ⟨x, row, hi', hconf, -⟩ := h.hosted _ hhosted
    obtain rfl := Option.some.inj (hi'.symm.trans hi)
    exact confirmedTo_of_row h hi hconf
  | holds ht _ =>
    refine Inv.put ?_ _ none (by simp)
    exact h.buys rfl (h.tasks _ _ ht) rfl rfl rfl fun _ => .inl
  | @pays t i account ht =>
    refine Inv.put ?_ _ none (by simp)
    refine h.buys rfl (h.tasks _ _ ht) rfl rfl rfl fun j hj => ?_
    rcases eq_or_ne j i with rfl | hne
    · exact .inr rfl
    · exact .inl (by simpa [State.log, Function.update_of_ne hne] using hj)
  | sells ht =>
    refine Inv.put ?_ _ none (by simp)
    exact h.buys rfl (h.tasks _ _ ht) rfl rfl rfl fun _ => .inl
  | stops ht => exact h.put _ none (by simp)

theorem Inv.steps (hc : H.CollisionFree) (h : Inv H s) (hs : Steps H s s') : Inv H s' := by
  induction hs with
  | refl => exact h
  | step _ hstep ih => exact ih.step hc hstep

theorem Inv.later (h : Inv H s) (hs : Step H s s') : Later s s' := by
  cases hs with
  | begins token holder hi => exact Later.begins hi _ _
  | @links t i generation account token row ht hi hgen hnone =>
    have hl := Later.set hi (grows_link ((h.checkouts i row hi).not_confirmed hnone) account)
      (.linked i account generation token)
    exact ⟨hl.checkouts, hl.history⟩
  | submits | submitsInVain => exact Later.of_rows rfl fun _ he => List.mem_cons_of_mem _ he
  | @confirms t i account row ht hi hx hconf =>
    have hl := Later.set hi (grows_confirm hconf) (.confirmed i account)
    exact ⟨hl.checkouts, hl.history⟩
  | @discards t i generation token row ht hi hgen hconf =>
    subst hgen
    have hl := Later.set hi (grows_discard (H := H) hconf token)
      (.discarded i row.handoffGeneration)
    exact ⟨hl.checkouts, hl.history⟩
  | holds | pays | sells => exact Later.of_rows rfl fun _ he => List.mem_cons_of_mem _ he
  | findsHandoff | findsLink | findsConfirmed | findsHold | findsHosted | stops =>
    exact Later.of_rows rfl fun _ => id

theorem Inv.stays (hc : H.CollisionFree) (h : Inv H s) (hs : Steps H s s')
    (hx : s.ConfirmedTo i x) : s'.ConfirmedTo i x := by
  induction hs with
  | refl => exact hx
  | step hs hstep ih => exact ((h.steps hc hs).later hstep).confirmedTo ih

/-- In every run: a confirmed link keeps its account, which is the begin request's own or one that
was paired; a handoff token of a discarded generation links no account; and what is bought is
bought after the confirmation, for the account that the link stays confirmed to. -/
theorem only_paired_buys (hc : H.CollisionFree) (h₀ : State.Initial s₀) (hs : Steps H s₀ s) :
    (∀ i x, s.ConfirmedTo i x → ∀ s', Steps H s s' → s'.ConfirmedTo i x) ∧
    (∀ i row, s.checkouts i = some row → row.linkConfirmed = true →
      ∃ x, row.holderAccount = some x ∧ ((∃ token, .began i token (some x) ∈ s.history) ∨
        Paired H s.history i row.tokenHash x)) ∧
    (∀ after i x generation handoffToken before,
      s.history = after ++ .linked i x generation handoffToken :: before →
      ∀ token discarded, .discarded i discarded ∈ before →
        handoffToken ≠ H.handoffTokenOf token discarded) ∧
    ∀ after e before i account, s.history = after ++ e :: before →
      e.purchase = some (i, account) →
      ∃ x, account = some x ∧ Confirmed before i x ∧ s.ConfirmedTo i x := by
  have h := (Inv.initial h₀).steps hc hs
  refine ⟨fun i x hx s' hs' => h.stays hc hs' hx, fun i row hi hconf => ?_, ?_, ?_⟩
  · obtain ⟨x, hx, -, hwhy⟩ := (h.checkouts i row hi).confirmed hconf
    exact ⟨x, hx, hwhy⟩
  · intro after i x generation handoffToken before heq token discarded hd
    exact h.licensed after _ before heq discarded hd token
  · intro after e before i account heq hbuy
    have hlic := h.licensed after e before heq
    have hmem : e ∈ s.history := by simp [heq]
    obtain ⟨x, rfl, hx⟩ := h.bought e i _ hmem hbuy
    cases e with
    | held j a | paid j a | sold j a =>
      obtain ⟨rfl, rfl⟩ : j = i ∧ a = some x := by simpa [Event.purchase] using hbuy
      obtain ⟨y, hy, hconf⟩ := hlic
      obtain rfl := Option.some.inj hy
      exact ⟨x, rfl, hconf, hx⟩
    | _ => simp [Event.purchase] at hbuy

/-! ### A page that pairs an account -/

/-- Hashes that forget nothing: a secret is what it was derived from, and how. -/
def perfect : Hashing (String × List String) (String × List String) where
  hashSecret := id
  hmacBase64url key text := (key.1, text :: key.2)
  hmacUInt32BE key text := key.1.length + text.length
  hex key := key.1

theorem perfect_collisionFree : perfect.CollisionFree := by
  intro token token' generation generation' h
  have htext : generation.repr = generation'.repr ∧ token.2 = token'.2 := by
    simpa [perfect, Hashing.handoffTokenOf, toString] using (Prod.mk.inj h).2
  have hdigits : Nat.toDigits 10 generation = Nat.toDigits 10 generation' :=
    String.ofList_injective htext.1
  calc generation
    _ = Nat.ofDigitChars 10 (Nat.toDigits 10 generation) 0 := Nat.ofDigitChars_ten_toDigits.symm
    _ = generation' := by rw [hdigits, Nat.ofDigitChars_ten_toDigits]

def State.start : State (String × List String) (String × List String) where
  checkouts _ := none
  held _ := False
  hosted _ := False
  tasks _ := none
  history := []

theorem State.start_initial : State.start.Initial :=
  ⟨fun _ => rfl, fun _ => id, fun _ => rfl, rfl⟩

/-- A stranger links an anonymous visitor's checkout, and the visitor discards the link while
another stranger's is under way; then an account is linked, confirmed and held for. -/
theorem only_paired_buys_one : ∃ s handoffToken, Steps perfect State.start s ∧
    (∃ before, s.history = .held 1 (some "a") :: before ∧ Confirmed before 1 "a") ∧
    s.ConfirmedTo 1 "a" ∧ .discarded 1 0 ∈ s.history ∧ .linked 1 "a" 1 handoffToken ∈ s.history ∧
    handoffToken ≠ perfect.handoffTokenOf ("p", []) 0 := by
  have h₁ : Steps perfect State.start _ := Steps.refl.step (Step.begins (i := 1) ("p", []) none rfl)
  have h₂ := h₁.step (Step.findsHandoff (t := 0) (i := 1)
    (perfect.handoffTokenOf ("p", []) 0) "b" rfl rfl rfl)
  have h₃ := h₂.step (Step.findsHandoff (t := 1) (i := 1)
    (perfect.handoffTokenOf ("p", []) 0) "c" rfl rfl rfl)
  have h₄ := h₃.step (Step.links (t := 0) (i := 1) rfl rfl rfl rfl)
  have h₅ := h₄.step (Step.findsLink (t := 2) (i := 1) ("p", []) rfl rfl rfl
    (by simp [Checkout.link]) rfl)
  have h₆ := h₅.step (Step.discards (t := 2) (i := 1) rfl rfl rfl rfl)
  have h₇ := h₆.step (Step.findsHandoff (t := 0) (i := 1)
    (perfect.handoffTokenOf ("p", []) 1) "a" rfl rfl rfl)
  have h₈ := h₇.step (Step.links (t := 0) (i := 1) rfl rfl rfl rfl)
  have h₉ := h₈.step (Step.submits (t := 0) (i := 1) ("p", []) rfl rfl rfl rfl rfl rfl)
  have h₁₀ := h₉.step (Step.confirms (t := 0) (i := 1) rfl rfl rfl rfl)
  have h₁₁ := h₁₀.step (Step.findsConfirmed (t := 0) (i := 1) ("p", []) rfl rfl rfl
    (by simp [Checkout.confirm, Checkout.link]) rfl)
  have h₁₂ := h₁₁.step (Step.holds (t := 0) (i := 1) rfl id)
  obtain ⟨-, -, hfresh, hall⟩ := only_paired_buys perfect_collisionFree State.start_initial h₁₂
  obtain ⟨x, hx, hconf, hto⟩ := hall [] _ _ 1 _ rfl rfl
  obtain rfl := Option.some.inj hx
  have hne := hfresh [_, _, _] 1 "a" 1 _ _ rfl ("p", []) 0 (.head _)
  exact ⟨_, _, h₁₂, ⟨_, rfl, hconf⟩, hto, .tail _ (.tail _ (.tail _ (.tail _ (.head _)))),
    .tail _ (.tail _ (.tail _ (.head _))), hne⟩

end Kippu.Pairing
