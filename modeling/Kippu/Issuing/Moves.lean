import Kippu.Issuing.Turns

/-!
# The steps of an issuing task

Each step is a turn of one task, or touches nothing a task uses (`Inv.turns`).
-/

namespace Kippu.Issuing

variable {s s' s'' s₀ : State} {t t' : ℕ} {a b : Attempt} {p : Purpose} {k k' : Task}
  {new : Option Task}

-- ---------------------------------------------------------------------------
-- Steps
-- ---------------------------------------------------------------------------

theorem Turn.outside (h : Inv s) (t : ℕ) (ht : s'.tasks = s.tasks)
    (hn : s'.nextAttempt = s.nextAttempt) (hp : s'.purpose = s.purpose)
    (hno : ∀ a, NoTicket s a → NoTicket s' a) (hu : ∀ a, Unknown s a → Unknown s' a)
    (hx : ∀ x, Same s s' x ∨ ¬ Kept s x) (hi : ∀ a, NotIssued s' a → NotIssued s a) :
    Turn s s' t (s.tasks t) := by
  have hsame : ∀ k x, s.tasks t = some k → k.Uses x → Same s s' x := fun k x hk hu =>
    (hx x).resolve_right fun hx => hx (h.inUse t k x hk hu).kept
  have hle : s.nextAttempt ≤ s'.nextAttempt := Nat.le_of_eq hn.symm
  exact {
    tasks := by rw [ht, Function.update_eq_self]
    next := hle
    unknown := fun a _ => hu a
    same := fun x => (hx x).imp id .inl
    uses := fun k x hk hu => .inr ⟨k, hk, hu⟩
    inUse := fun k x hk hu => (h.inUse t k x hk hu).same hle (hsame k x hk hu)
    ran := fun k hk => (h.ran t k hk).same (hsame k · hk) hno
    purpose := fun a p ha => .inl (by rwa [hp] at ha)
    kept := by
      intro k a p x hk _ _ hu hfor
      refine .inr ⟨((h.inUse t k x hk hu).same hle (hsame k x hk hu)).kept, fun k' hk' _ => ?_⟩
      rw [hk] at hk'
      obtain rfl := Option.some.inj hk'
      exact hfor
    notIssued := fun a ha => .inl (hi a ha)
    rests := by
      intro k x hk hh hu
      refine ⟨fun hx => hx.same hle (hsame k x hk hu), fun k' hk' _ => ?_⟩
      obtain rfl := Option.some.inj (hk.symm.trans hk')
      exact hh }

@[simp] theorem Same.put_iff : Same s (s'.put t new) x ↔ Same s s' x := by
  cases x <;> rfl

theorem Turn.quiet (h : Inv s) (ht : s.tasks t = some k)
    (hu : ∀ k' x, new = some k' → k'.Uses x → k.Uses x)
    (hr : ∀ k', new = some k' → k'.Local (s.put t new))
    (hf : ∀ k' a, new = some k' → k.For a → NoTicket (s.put t new) a ∨ k'.For a)
    (hh : ∀ k', new = some k' → k.Harmless → k'.Harmless) : Turn s (s.put t new) t new where
  tasks := rfl
  next := Nat.le_refl _
  unknown _ _ ha := ha
  same x := .inl (by simp [Same.refl])
  uses k' x hk' hx := .inr ⟨k, ht, hu k' x hk' hx⟩
  inUse k' x hk' hx := by
    have hi := h.inUse t k x ht (hu k' x hk' hx)
    exact hi.same (Nat.le_refl _) (by simp [Same.refl])
  ran := hr
  purpose a p ha := .inl ha
  kept := by
    intro k₁ a p x hk₁ _ _ hx hfor
    obtain rfl := Option.some.inj (ht.symm.trans hk₁)
    by_cases hno : NoTicket (s.put t new) a
    · exact .inl hno
    have hi := h.inUse t k x ht hx
    refine .inr ⟨(hi.same (Nat.le_refl _) (by simp [Same.refl])).kept, fun k' hk' _ => ?_⟩
    exact (hf k' a hk' hfor).resolve_left hno
  notIssued a ha := .inl ha
  rests := by
    intro k₁ x hk₁ hk _
    obtain rfl := Option.some.inj (ht.symm.trans hk₁)
    exact ⟨Taken.same (Nat.le_refl _) (by simp [Same.refl]), fun k' hk' _ => hh k' hk' hk⟩

@[simp] theorem place_ne_attempt : p.place ≠ some (.attempt a) := by
  cases p with
  | sale hold => simp [Purpose.place]
  | grant invitation => cases invitation <;> simp [Purpose.place]

theorem Task.settle_uses (hp : p = .grant (some i)) (hx : Task.Uses (.settle i result) x) :
    p.place = some x := by
  obtain rfl : x = .invitation i := hx
  simp [hp, Purpose.place]

theorem Task.settle_for (hr : result ≠ .refusal) : Task.For (.settle i result) a :=
  .inr ⟨i, result, rfl, hr⟩

/-- Nothing else relays the attempt of a task. -/
theorem Inv.noTicket_put (h : Inv s) (ht : s.tasks t = some k) (hk : k.Uses (.attempt a))
    (hl : s.ledger a = .unsubmitted ∨ s.ledger a = .refused) (hnew : ∀ p, new ≠ some (.relay a p)) :
    NoTicket (s.put t new) a := by
  refine ⟨h.inUse t k _ ht hk, hl, ?_⟩
  intro t' p
  rcases eq_or_ne t' t with rfl | hne
  · simpa [State.put] using hnew p
  · intro ht'
    have ht' : s.tasks t' = some (.relay a p) := by
      simpa [State.put, Function.update_of_ne hne] using ht'
    exact hne (h.alone t' t _ k _ ht' ht (.inl rfl) hk)

-- ---------------------------------------------------------------------------
-- An attempt begins
-- ---------------------------------------------------------------------------

theorem attempt_purpose (h : (s.attempt p).purpose a = some q) :
    s.purpose a = some q ∨ a = s.nextAttempt ∧ q = p := by
  rcases eq_or_ne a s.nextAttempt with rfl | hne
  · exact .inr ⟨rfl, by simpa [State.attempt, eq_comm] using h⟩
  · exact .inl (by simpa [State.attempt, Function.update_of_ne hne] using h)

theorem attempt_purpose_old (ha : a ≠ s.nextAttempt) :
    (s.attempt p).purpose a = s.purpose a :=
  Function.update_of_ne ha _ _

theorem Unknown.attempt (ha : (s.attempt p).nextAttempt ≤ a) (hu : Unknown s a) :
    Unknown (s.attempt p) a :=
  ⟨(attempt_purpose_old (Nat.ne_of_gt ha)).trans hu.1, hu.2⟩

theorem Inv.untouched (h : Inv s) (hx : ∀ x, Same s s' x ∨ ¬ Kept s x)
    (hu : ∀ k x, new = some k → k.Uses x → ¬ Kept s x)
    (ht : s.tasks t = some k) (hk : k.Uses x) :
    Kept s x ∧ Same s s' x ∧ ∀ k', new = some k' → ¬ k'.Uses x := by
  have hkept := (h.inUse t k x ht hk).kept
  exact ⟨hkept, (hx x).resolve_right fun hx => hx hkept,
    fun k' hk' hx' => hu k' x hk' hx' hkept⟩

theorem Turn.taken (h : Inv s) (hi : s.holds i = some status)
    (hst : status = .outstanding ∨ status = .lapsed ∨ status = .released) :
    Turn s (((s.setHold i .issuing).attempt (.sale i)).spawn (.relay s.nextAttempt (.sale i)))
      s.nextTask (some (.relay s.nextAttempt (.sale i))) := by
  have hkept : ¬ Kept s (.hold i) := by
    rcases hst with rfl | rfl | rfl <;> simp [Kept, hi]
  have hnew : ¬ Kept s (.attempt s.nextAttempt) := Nat.lt_irrefl _
  have huses : ∀ k x, some (Task.relay s.nextAttempt (.sale i)) = some k → k.Uses x →
      ¬ Kept s x := by
    rintro k x ⟨⟩ (rfl | hx)
    · exact hnew
    · obtain rfl := Option.some.inj hx
      exact hkept
  have hsame : ∀ x, Same s (((s.setHold i .issuing).attempt (.sale i)).spawn
      (.relay s.nextAttempt (.sale i))) x ∨ ¬ Kept s x := by
    rintro (j | j | a)
    · rcases eq_or_ne j i with rfl | hne
      · exact .inr hkept
      · exact .inl (Function.update_of_ne hne _ _)
    · exact .inl rfl
    · rcases eq_or_ne a s.nextAttempt with rfl | hne
      · exact .inr hnew
      · exact .inl ⟨attempt_purpose_old hne, rfl, id⟩
  constructor
  case tasks => rfl
  case next => exact Nat.le_succ _
  case unknown => exact fun a ha hu => Unknown.attempt ha hu
  case same => exact fun x => (hsame x).imp id .inl
  case uses => exact fun k x hk hx => .inl (huses k x hk hx)
  case inUse =>
    rintro k x ⟨⟩ (rfl | hx)
    · exact Nat.lt_succ_self _
    · obtain rfl := Option.some.inj hx
      exact Function.update_self _ _ _
  case ran =>
    rintro k ⟨⟩
    exact ⟨⟨Function.update_self _ _ _, by rintro _ ⟨⟩⟩, (h.unknown _ (Nat.le_refl _)).2.1⟩
  case purpose =>
    intro a p ha
    rcases attempt_purpose ha with ha | ⟨rfl, rfl⟩
    · exact .inl ha
    refine .inr fun x hx => ?_
    obtain rfl := Option.some.inj hx
    refine ⟨.inl hkept, .inl (Function.update_self _ _ _), ?_⟩
    rintro k ⟨⟩ -
    exact .inl (.inl rfl)
  case kept =>
    intro k a p x hk _ _ hx _
    obtain ⟨hkept, hsame, hnew⟩ := h.untouched hsame huses hk hx
    exact .inr ⟨hkept.same (s := s) (Nat.le_succ _) hsame, fun k' hk' hx' => absurd hx' (hnew k' hk')⟩
  case notIssued =>
    rintro a (⟨j, ha, hg⟩ | hr)
    · rcases attempt_purpose ha with ha | ⟨-, ⟨⟩⟩
      exact .inl (.inl ⟨j, ha, hg⟩)
    · exact .inl (.inr hr)
  case rests =>
    intro k x hk _ hx
    obtain ⟨-, hsame, hnew⟩ := h.untouched hsame huses hk hx
    exact ⟨Taken.same (s := s) (Nat.le_succ _) hsame, fun k' hk' hx' => absurd hx' (hnew k' hk')⟩

theorem Turn.reserved (h : Inv s) (ht : s.tasks t = some (.reserve invitation))
    (hnew : new = some (.relay s.nextAttempt (.grant invitation)) ∨
      new = afterGrant invitation .error) :
    Turn s (((s.attempt (.grant invitation)).setGranted s.nextAttempt (some .pending)).put t new)
      t new := by
  have hfresh : ¬ Kept s (.attempt s.nextAttempt) := Nat.lt_irrefl _
  have huses : ∀ x, (Purpose.grant invitation).place = some x → Free s t x := fun x hx =>
    .inr ⟨_, ht, hx⟩
  have hplace : ∀ x, (Purpose.grant invitation).place = some x → InUse s x := fun x hx =>
    h.inUse t _ x ht hx
  have hold : ∀ k x, new = some k → k.Uses x →
      x = .attempt s.nextAttempt ∨ (Purpose.grant invitation).place = some x := by
    intro k x hk hx
    rcases hnew with rfl | rfl
    · obtain rfl := Option.some.inj hk
      exact hx
    · obtain ⟨i, rfl, rfl⟩ := afterGrant_eq hk
      exact .inr (Task.settle_uses rfl hx)
  have hsame : ∀ x, Same s (((s.attempt (.grant invitation)).setGranted s.nextAttempt
      (some .pending)).put t new) x ∨ x = .attempt s.nextAttempt := by
    rintro (j | j | a)
    · exact .inl rfl
    · exact .inl rfl
    · rcases eq_or_ne a s.nextAttempt with rfl | hne
      · exact .inr rfl
      · exact .inl ⟨attempt_purpose_old hne, Function.update_of_ne hne _ _, id⟩
  have hin : ∀ x, (Purpose.grant invitation).place = some x →
      InUse (((s.attempt (.grant invitation)).setGranted s.nextAttempt (some .pending)).put t new)
        x := by
    intro x hx
    refine (hplace x hx).same (Nat.le_succ _) ((hsame x).resolve_right ?_)
    rintro rfl
    exact place_ne_attempt hx
  constructor
  case tasks => rfl
  case next => exact Nat.le_succ _
  case unknown => exact fun a ha hu => Unknown.attempt ha hu
  case same =>
    intro x
    rcases hsame x with hx | rfl
    · exact .inl hx
    · exact .inr (.inl hfresh)
  case uses =>
    intro k x hk hx
    rcases hold k x hk hx with rfl | hx
    · exact .inl hfresh
    · exact huses x hx
  case inUse =>
    intro k x hk hx
    rcases hold k x hk hx with rfl | hx
    · exact Nat.lt_succ_self _
    · exact hin x hx
  case ran =>
    intro k hk
    rcases hnew with rfl | rfl
    · obtain rfl := Option.some.inj hk
      exact ⟨⟨Function.update_self _ _ _, fun _ _ => Function.update_self _ _ _⟩,
        (h.unknown _ (Nat.le_refl _)).2.1⟩
    · obtain ⟨i, rfl, rfl⟩ := afterGrant_eq hk
      trivial
  case purpose =>
    intro a p ha
    rcases attempt_purpose ha with ha | ⟨rfl, rfl⟩
    · exact .inl ha
    refine .inr fun x hx => ⟨huses x hx, (hin x hx).kept, ?_⟩
    intro k hk _
    rcases hnew with rfl | rfl
    · obtain rfl := Option.some.inj hk
      exact .inl (.inl rfl)
    · obtain ⟨i, rfl, rfl⟩ := afterGrant_eq hk
      exact Task.settle_for (by simp)
  case kept =>
    intro k a p x hk _ _ _ hfor
    obtain rfl := Option.some.inj (ht.symm.trans hk)
    simp [Task.For, Task.Uses] at hfor
  case notIssued =>
    rintro a (⟨j, ha, hg⟩ | hr)
    · rcases eq_or_ne a s.nextAttempt with rfl | hne
      · simp [State.put, State.setGranted] at hg
      · refine .inl (.inl ⟨j, (attempt_purpose_old hne).symm.trans ha, ?_⟩)
        simpa [State.put, State.setGranted, State.attempt, Function.update_of_ne hne] using hg
    · exact .inl (.inr hr)
  case rests =>
    rintro k x hk hh
    obtain rfl := Option.some.inj (ht.symm.trans hk)
    exact hh.elim

theorem Turn.claimed (h : Inv s) (hi : s.invitations i = some .opened) :
    Turn s ((s.setInvitation i .redeeming).spawn (.reserve (some i))) s.nextTask
      (some (.reserve (some i))) := by
  have hkept : ¬ Kept s (.invitation i) := by simp [Kept, hi]
  have hsame : ∀ x, Same s ((s.setInvitation i .redeeming).spawn (.reserve (some i))) x ∨
      ¬ Kept s x := by
    rintro (j | j | a)
    · exact .inl rfl
    · rcases eq_or_ne j i with rfl | hne
      · exact .inr hkept
      · exact .inl (Function.update_of_ne hne _ _)
    · exact .inl ⟨rfl, rfl, id⟩
  have huses : ∀ k x, some (Task.reserve (some i)) = some k → k.Uses x → ¬ Kept s x := by
    rintro k x ⟨⟩ hx
    obtain rfl := Option.some.inj hx
    exact hkept
  constructor
  case tasks => rfl
  case next => exact Nat.le_refl _
  case unknown => exact fun a _ hu => hu
  case same => exact fun x => (hsame x).imp id .inl
  case uses => exact fun k x hk hx => .inl (huses k x hk hx)
  case inUse =>
    rintro k x ⟨⟩ hx
    obtain rfl := Option.some.inj hx
    exact Function.update_self _ _ _
  case ran =>
    rintro k ⟨⟩
    trivial
  case purpose => exact fun a p ha => .inl ha
  case kept =>
    intro k a p x hk _ _ hx _
    obtain ⟨hkept, hsame, hnew⟩ := h.untouched hsame huses hk hx
    exact .inr ⟨hkept.same (s := s) (Nat.le_refl _) hsame, fun k' hk' hx' => absurd hx' (hnew k' hk')⟩
  case notIssued => exact fun a ha => .inl ha
  case rests =>
    intro k x hk _ hx
    obtain ⟨-, hsame, hnew⟩ := h.untouched hsame huses hk hx
    exact ⟨Taken.same (s := s) (Nat.le_refl _) hsame, fun k' hk' hx' => absurd hx' (hnew k' hk')⟩

theorem Turn.grantBegun (h : Inv s) :
    Turn s (s.spawn (.reserve none)) s.nextTask (some (.reserve none)) := by
  have hsame : ∀ x, Same s (s.spawn (.reserve none)) x ∨ ¬ Kept s x := by
    rintro (j | j | a)
    · exact .inl rfl
    · exact .inl rfl
    · exact .inl ⟨rfl, rfl, id⟩
  have huses : ∀ k x, some (Task.reserve none) = some k → ¬ k.Uses x := by
    rintro k x ⟨⟩ hx
    cases hx
  constructor
  case tasks => rfl
  case next => exact Nat.le_refl _
  case unknown => exact fun a _ hu => hu
  case same => exact fun x => (hsame x).imp id .inl
  case uses => exact fun k x hk hx => absurd hx (huses k x hk)
  case inUse => exact fun k x hk hx => absurd hx (huses k x hk)
  case ran =>
    rintro k ⟨⟩
    trivial
  case purpose => exact fun a p ha => .inl ha
  case kept =>
    intro k a p x hk _ _ hx _
    obtain ⟨hkept, hsame, hnew⟩ := h.untouched hsame (fun k x hk hx => absurd hx (huses k x hk)) hk hx
    exact .inr ⟨hkept.same (s := s) (Nat.le_refl _) hsame, fun k' hk' hx' => absurd hx' (hnew k' hk')⟩
  case notIssued => exact fun a ha => .inl ha
  case rests =>
    intro k x hk _ hx
    obtain ⟨-, hsame, hnew⟩ := h.untouched hsame (fun k x hk hx => absurd hx (huses k x hk)) hk hx
    exact ⟨Taken.same (s := s) (Nat.le_refl _) hsame, fun k' hk' hx' => absurd hx' (hnew k' hk')⟩

-- ---------------------------------------------------------------------------
-- An attempt goes on and ends
-- ---------------------------------------------------------------------------

theorem Turn.relayed (h : Inv s) (ht : s.tasks t = some (.relay a p)) :
    Turn s ((s.setLedger a .submitted).put t (some (.ticket a p))) t (some (.ticket a p)) := by
  have hsame : ∀ x, Same s ((s.setLedger a .submitted).put t (some (.ticket a p))) x ∨
      x = .attempt a := by
    rintro (j | j | b)
    · exact .inl rfl
    · exact .inl rfl
    · rcases eq_or_ne b a with rfl | hne
      · exact .inr rfl
      · exact .inl ⟨rfl, rfl, (Function.update_of_ne hne _ _).trans⟩
  have hlt : a < s.nextAttempt := h.inUse t _ (.attempt a) ht (.inl rfl)
  have hin : ∀ x, Task.Uses (.relay a p) x →
      InUse ((s.setLedger a .submitted).put t (some (.ticket a p))) x := by
    rintro (j | j | b) hx
    · exact h.inUse t _ _ ht hx
    · exact h.inUse t _ _ ht hx
    · exact h.inUse t _ _ ht hx
  constructor
  case tasks => rfl
  case next => exact Nat.le_refl _
  case unknown =>
    intro b hb hu
    have hne : b ≠ a := Nat.ne_of_gt (Nat.lt_of_lt_of_le hlt hb)
    exact ⟨hu.1, (Function.update_of_ne hne _ _).trans hu.2.1, hu.2.2⟩
  case same =>
    intro x
    rcases hsame x with hx | rfl
    · exact .inl hx
    · exact .inr (.inr ⟨_, ht, .inl rfl⟩)
  case uses =>
    rintro k x ⟨⟩ hx
    exact .inr ⟨_, ht, hx⟩
  case inUse =>
    rintro k x ⟨⟩ hx
    exact hin x hx
  case ran =>
    rintro k ⟨⟩
    exact (h.ran t _ ht).1
  case purpose => exact fun b q hb => .inl hb
  case kept =>
    intro k b q x hk _ _ hx hfor
    obtain rfl := Option.some.inj (ht.symm.trans hk)
    refine .inr ⟨(hin x hx).kept, ?_⟩
    rintro k ⟨⟩ -
    obtain rfl : b = a := by simpa [Task.For, Task.Uses] using hfor
    exact .inl (.inl rfl)
  case notIssued => exact fun b hb => .inl hb
  case rests =>
    rintro k x hk hh
    obtain rfl := Option.some.inj (ht.symm.trans hk)
    exact hh.elim

theorem Turn.undone (h : Inv s) (ht : s.tasks t = some (.undo a invitation thrown))
    (result : GrantResult) :
    Turn s ((s.setGranted a none).put t (afterGrant invitation result)) t
      (afterGrant invitation result) := by
  have hno : NoTicket ((s.setGranted a none).put t (afterGrant invitation result)) a :=
    (h.ran t _ ht).2.setGranted.put fun _ => afterGrant_ne_relay
  have huses : ∀ k x, afterGrant invitation result = some k → k.Uses x →
      Task.Uses (.undo a invitation thrown) x := by
    intro k x hk hx
    obtain ⟨i, rfl, rfl⟩ := afterGrant_eq hk
    exact .inr (Task.settle_uses rfl hx)
  constructor
  case tasks => rfl
  case next => exact Nat.le_refl _
  case unknown => exact fun b _ hu => hu
  case same =>
    rintro (j | j | b)
    · exact .inl rfl
    · exact .inl rfl
    · rcases eq_or_ne b a with rfl | hne
      · exact .inr (.inr ⟨_, ht, .inl rfl⟩)
      · exact .inl ⟨rfl, Function.update_of_ne hne _ _, id⟩
  case uses => exact fun k x hk hx => .inr ⟨_, ht, huses k x hk hx⟩
  case inUse =>
    rintro k (j | j | b) hk hx
    · exact h.inUse t _ _ ht (huses k _ hk hx)
    · exact h.inUse t _ _ ht (huses k _ hk hx)
    · exact h.inUse t _ _ ht (huses k _ hk hx)
  case ran =>
    intro k hk
    obtain ⟨i, rfl, rfl⟩ := afterGrant_eq hk
    trivial
  case purpose => exact fun b q hb => .inl hb
  case kept =>
    intro k b q x hk _ _ _ hfor
    obtain rfl := Option.some.inj (ht.symm.trans hk)
    obtain rfl : b = a := by simpa [Task.For, Task.Uses] using hfor
    exact .inl hno
  case notIssued =>
    rintro b (⟨j, hb, hg⟩ | hr)
    · rcases eq_or_ne b a with rfl | hne
      · exact .inr hno
      · refine .inl (.inl ⟨j, hb, ?_⟩)
        simpa [State.put, State.setGranted, Function.update_of_ne hne] using hg
    · exact .inl (.inr hr)
  case rests =>
    rintro k x hk hh
    obtain rfl := Option.some.inj (ht.symm.trans hk)
    exact hh.elim

theorem Turn.settled (ht : s.tasks t = some (.settle i result)) :
    Turn s ((s.setInvitation i (redeemed result)).put t none) t none := by
  constructor
  case tasks => rfl
  case next => exact Nat.le_refl _
  case unknown => exact fun b _ hu => hu
  case same =>
    rintro (j | j | b)
    · exact .inl rfl
    · rcases eq_or_ne j i with rfl | hne
      · exact .inr (.inr ⟨_, ht, rfl⟩)
      · exact .inl (Function.update_of_ne hne _ _)
    · exact .inl ⟨rfl, rfl, id⟩
  case uses => exact fun k x hk => by cases hk
  case inUse => exact fun k x hk => by cases hk
  case ran => exact fun k hk => by cases hk
  case purpose => exact fun b q hb => .inl hb
  case kept =>
    intro k b q x hk _ _ hx hfor
    obtain rfl := Option.some.inj (ht.symm.trans hk)
    obtain rfl : x = .invitation i := hx
    obtain hr : result ≠ .refusal := by
      rintro rfl
      simp [Task.For, Task.Uses] at hfor
    refine .inr ⟨?_, fun k' hk' => by cases hk'⟩
    cases result with
    | issued => exact .inr (.inl (Function.update_self _ _ _))
    | refusal => exact absurd rfl hr
    | error => exact .inr (.inr (Function.update_self _ _ _))
  case notIssued => exact fun b hb => .inl hb
  case rests =>
    intro k x hk hh hx
    obtain rfl := Option.some.inj (ht.symm.trans hk)
    obtain rfl : result = .error := hh
    obtain rfl : x = .invitation i := hx
    exact ⟨fun _ => .inr (Function.update_self _ _ _), fun k' hk' => by cases hk'⟩

-- ---------------------------------------------------------------------------
-- The outcome of an attempt
-- ---------------------------------------------------------------------------

theorem recordOutcome_same :
    Same s (recordOutcome s a p outcome) x ∨ x = .attempt a ∨ p.place = some x := by
  cases p with
  | sale hold =>
    rcases x with j | j | b
    · rcases eq_or_ne j hold with rfl | hne
      · exact .inr (.inr rfl)
      refine .inl ?_
      cases outcome with
      | issued => exact Function.update_of_ne hne _ _
      | rejected =>
        simp only [recordOutcome]
        split
        · exact Function.update_of_ne hne _ _
        · rfl
      | failed => rfl
    · refine .inl ?_
      cases outcome <;> simp only [recordOutcome] <;> try split
      all_goals rfl
    · refine .inl ?_
      cases outcome <;> simp only [recordOutcome] <;> try split
      all_goals exact ⟨rfl, rfl, id⟩
  | grant invitation =>
    rcases x with j | j | b
    · exact .inl (by cases outcome <;> rfl)
    · exact .inl (by cases outcome <;> rfl)
    · rcases eq_or_ne b a with rfl | hne
      · exact .inr (.inl rfl)
      · refine .inl ?_
        cases outcome <;> exact ⟨rfl, Function.update_of_ne hne _ _, id⟩

theorem recordOutcome_kept (ho : outcome ≠ .rejected) (hx : p.place = some x) (h : Kept s x) :
    Kept (recordOutcome s a p outcome) x := by
  cases p with
  | sale hold =>
    obtain rfl := Option.some.inj hx
    cases outcome with
    | issued => exact .inr (Function.update_self _ _ _)
    | rejected => exact absurd rfl ho
    | failed => exact h
  | grant invitation =>
    rcases x with j | j | b
    · cases invitation <;> cases hx
    · cases outcome <;> exact h
    · exact absurd hx place_ne_attempt

theorem recordOutcome_taken (h : Taken s x) : Taken (recordOutcome s a p .failed) x := by
  cases p with
  | sale hold => exact h
  | grant invitation =>
    rcases x with j | j | b
    · exact h
    · exact h
    · refine ⟨h.1, ?_⟩
      rcases eq_or_ne b a with rfl | hne
      · exact .inr (Function.update_self _ _ _)
      · simpa [recordOutcome, State.setGranted, Function.update_of_ne hne] using h.2

theorem recordOutcome_refunded (hb : b ≠ a ∨ outcome ≠ .rejected) :
    (recordOutcome s a p outcome).refunded b = s.refunded b := by
  cases p with
  | sale hold =>
    cases outcome with
    | issued | failed => rfl
    | rejected =>
      have hne : b ≠ a := hb.resolve_right (by simp)
      simp only [recordOutcome]
      split <;> exact Function.update_of_ne hne _ _
  | grant invitation => cases outcome <;> rfl

theorem recordOutcome_notIssued (ha : s.purpose a = some p)
    (hb : NotIssued (recordOutcome s a p outcome) b) :
    NotIssued s b ∨ b = a ∧ outcome = .rejected := by
  by_cases hba : b = a ∧ outcome = .rejected
  · exact .inr hba
  have hba : b ≠ a ∨ outcome ≠ .rejected := by tauto
  refine .inl ?_
  rcases hb with ⟨i, hp, hg⟩ | hr
  · rw [recordOutcome_purpose] at hp
    refine .inl ⟨i, hp, ?_⟩
    rcases eq_or_ne b a with rfl | hne
    · obtain rfl := Option.some.inj (ha.symm.trans hp)
      cases outcome with
      | issued | failed => simp [recordOutcome, State.setGranted] at hg
      | rejected => simp at hba
    · rcases recordOutcome_same (s := s) (x := .attempt b) with h | h | h
      · rwa [h.2.1] at hg
      · exact absurd (by simpa using h) hne
      · exact absurd h place_ne_attempt
  · exact .inr (recordOutcome_refunded hba ▸ hr)

theorem Turn.completed (h : Inv s) (ht : s.tasks t = some (.complete a p outcome))
    (hnew : ∀ k, new = some k → ∃ i result, p = .grant (some i) ∧ k = .settle i result ∧
      (result = .refusal → outcome = .rejected) ∧ (outcome = .failed → result = .error)) :
    Turn s ((recordOutcome s a p outcome).put t new) t new := by
  obtain ⟨⟨ha, -⟩, hrej⟩ := h.ran t _ ht
  have hno : outcome = .rejected → NoTicket ((recordOutcome s a p outcome).put t new) a := by
    intro ho
    refine (hrej ho).recordOutcome.put fun q hq => ?_
    obtain ⟨i, r, -, hk, -⟩ := hnew _ hq
    cases hk
  have huses : ∀ k x, new = some k → k.Uses x → p.place = some x := by
    intro k x hk hx
    obtain ⟨i, r, hp, rfl, -⟩ := hnew k hk
    exact Task.settle_uses hp hx
  have hin : ∀ k x, new = some k → k.Uses x →
      InUse ((recordOutcome s a p outcome).put t new) x := by
    intro k x hk hx
    have hplace := h.inUse t _ x ht (.inr (huses k x hk hx))
    obtain ⟨i, r, rfl, rfl, -⟩ := hnew k hk
    obtain rfl : x = .invitation i := hx
    exact (congrFun recordOutcome_invitations i).trans hplace
  constructor
  case tasks => simp [State.put]
  case next => simp [State.put]
  case unknown =>
    intro b hb hu
    have hlt : a < s.nextAttempt := h.inUse t _ (.attempt a) ht (.inl rfl)
    have hne : b ≠ a := by
      rintro rfl
      simp [State.put] at hb
      exact absurd hlt (Nat.not_lt.mpr hb)
    exact ⟨by simpa [State.put] using hu.1, by simpa [State.put] using hu.2.1,
      (recordOutcome_refunded (.inl hne)).trans hu.2.2⟩
  case same =>
    intro x
    rw [Same.put_iff]
    exact recordOutcome_same.imp id fun hx => .inr ⟨_, ht, hx⟩
  case uses => exact fun k x hk hx => .inr ⟨_, ht, .inr (huses k x hk hx)⟩
  case inUse => exact hin
  case ran =>
    intro k hk
    obtain ⟨i, r, hp, rfl, -⟩ := hnew k hk
    trivial
  case purpose => exact fun b q hb => .inl (by simpa [State.put] using hb)
  case kept =>
    intro k b q x hk hb hx hu hfor
    obtain rfl := Option.some.inj (ht.symm.trans hk)
    obtain rfl : b = a := by simpa [Task.For, Task.Uses] using hfor
    obtain rfl := Option.some.inj (ha.symm.trans hb)
    by_cases ho : outcome = .rejected
    · exact .inl (hno ho)
    have hkept := recordOutcome_kept (a := b) ho hx (h.inUse t _ x ht hu).kept
    refine .inr ⟨?_, ?_⟩
    · cases x <;> exact hkept
    · intro k' hk' _
      obtain ⟨i, r, -, rfl, hr, -⟩ := hnew k' hk'
      exact Task.settle_for fun h => ho (hr h)
  case notIssued =>
    intro b hb
    rcases recordOutcome_notIssued ha hb with hb | ⟨rfl, ho⟩
    · exact .inl hb
    · exact .inr (hno ho)
  case rests =>
    intro k x hk hh hx
    obtain rfl := Option.some.inj (ht.symm.trans hk)
    obtain rfl : outcome = .failed := hh
    refine ⟨fun hx => ?_, fun k' hk' _ => ?_⟩
    · have htaken := recordOutcome_taken (a := a) (p := p) hx
      cases x <;> exact htaken
    · obtain ⟨i, r, -, rfl, -, hr⟩ := hnew k' hk'
      exact hr rfl

-- ---------------------------------------------------------------------------
-- Every step
-- ---------------------------------------------------------------------------

theorem Same.setHold (hi : ¬ Kept s (.hold i)) (x : Place) :
    Same s (s.setHold i v) x ∨ ¬ Kept s x := by
  rcases x with j | j | a
  · rcases eq_or_ne j i with rfl | hne
    · exact .inr hi
    · exact .inl (Function.update_of_ne hne _ _)
  · exact .inl rfl
  · exact .inl ⟨rfl, rfl, id⟩

theorem Same.setInvitation (hi : ¬ Kept s (.invitation i)) (x : Place) :
    Same s (s.setInvitation i v) x ∨ ¬ Kept s x := by
  rcases x with j | j | a
  · exact .inl rfl
  · rcases eq_or_ne j i with rfl | hne
    · exact .inr hi
    · exact .inl (Function.update_of_ne hne _ _)
  · exact .inl ⟨rfl, rfl, id⟩

theorem Same.setLedger (hl : s.ledger a = .submitted) (x : Place) :
    Same s (s.setLedger a v) x := by
  rcases x with j | j | b
  · rfl
  · rfl
  · refine ⟨rfl, rfl, fun hb => ?_⟩
    have hne : b ≠ a := by
      rintro rfl
      simp [hl] at hb
    exact (Function.update_of_ne hne _ _).trans hb

theorem Unknown.setLedger (hl : s.ledger a = .submitted) (hu : Unknown s b) :
    Unknown (s.setLedger a v) b :=
  ⟨hu.1, (Same.setLedger hl (.attempt b)).2.2 hu.2.1, hu.2.2⟩

/-- A task that ends, or that goes on to an error, gives nothing back. -/
theorem Turn.error (h : Inv s) (ht : s.tasks t = some k)
    (hnew : ∀ k', new = some k' → ∃ i, k.Uses (.invitation i) ∧ k' = .settle i .error) :
    Turn s (s.put t new) t new := by
  refine Turn.quiet h ht ?_ ?_ ?_ ?_
  · intro k' x hk hx
    obtain ⟨i, hu, rfl⟩ := hnew k' hk
    obtain rfl : x = .invitation i := hx
    exact hu
  · intro k' hk
    obtain ⟨i, -, rfl⟩ := hnew k' hk
    trivial
  · intro k' a hk _
    obtain ⟨i, -, rfl⟩ := hnew k' hk
    exact .inr (Task.settle_for (by simp))
  · intro k' hk _
    obtain ⟨i, -, rfl⟩ := hnew k' hk
    rfl

theorem afterError_settle (h : afterError p = some k) :
    ∃ i, p.place = some (.invitation i) ∧ k = .settle i .error := by
  obtain ⟨i, rfl, rfl⟩ := afterError_eq h
  exact ⟨i, rfl, rfl⟩

theorem Turn.relayThrew (h : Inv s) (ht : s.tasks t = some (.relay a p)) :
    Turn s (s.put t (some (afterRelayThrew a thrown p))) t (some (afterRelayThrew a thrown p)) := by
  obtain ⟨hb, hl⟩ := h.ran t _ ht
  have hno : NoTicket (s.put t (some (afterRelayThrew a thrown p))) a :=
    h.noTicket_put ht (.inl rfl) (.inl hl) fun q => by cases p <;> simp [afterRelayThrew]
  refine Turn.quiet h ht ?_ ?_ ?_ (fun _ _ hh => hh.elim)
  · rintro k x ⟨⟩ hx
    cases p <;> exact hx
  · rintro k ⟨⟩
    cases p with
    | sale hold => exact ⟨hb, fun _ => hno⟩
    | grant invitation => exact ⟨hb, hno⟩
  · intro k b _ hfor
    obtain rfl : b = a := by simpa [Task.For, Task.Uses] using hfor
    exact .inl hno

theorem Turn.verdict (h : Inv s) (ht : s.tasks t = some (.await a p))
    (ho : outcome = .rejected → s.ledger a = .refused) :
    Turn s (s.put t (some (.complete a p outcome))) t (some (.complete a p outcome)) := by
  refine Turn.quiet h ht ?_ ?_ ?_ (fun _ _ hh => hh.elim)
  · rintro k x ⟨⟩ hx
    exact hx
  · rintro k ⟨⟩
    exact ⟨h.ran t _ ht, fun hr => h.noTicket_put ht (.inl rfl) (.inr (ho hr)) (by simp)⟩
  · rintro k b ⟨⟩ hfor
    obtain rfl : b = a := by simpa [Task.For, Task.Uses] using hfor
    exact .inr (.inl (.inl rfl))

/-- What a step is to what the tasks hold. -/
theorem Inv.turns (h : Inv s) (hs : Step s s') : ∃ t new, Turn s s' t new := by
  have hno : ∀ a, NoTicket s a → NoTicket s' a := fun a ha => ha.step hs
  cases hs with
  | lands hl | refuses hl =>
    exact ⟨_, _, Turn.outside h 0 rfl rfl rfl hno (fun a => Unknown.setLedger hl)
      (fun x => .inl (Same.setLedger hl x)) (fun a => id)⟩
  | held hi =>
    exact ⟨_, _, Turn.outside h 0 rfl rfl rfl hno (fun a => id)
      (Same.setHold (by simp [Kept, hi])) (fun a => id)⟩
  | holdEnded status hi =>
    exact ⟨_, _, Turn.outside h 0 rfl rfl rfl hno (fun a => id)
      (Same.setHold (by simp [Kept, hi])) (fun a => id)⟩
  | invited hi =>
    exact ⟨_, _, Turn.outside h 0 rfl rfl rfl hno (fun a => id)
      (Same.setInvitation (by simp [Kept, hi])) (fun a => id)⟩
  | taken hi hst => exact ⟨_, _, Turn.taken h hi hst⟩
  | grantBegun => exact ⟨_, _, Turn.grantBegun h⟩
  | claimed hi => exact ⟨_, _, Turn.claimed h hi⟩
  | reserveThrew thrown ht =>
    refine ⟨_, _, Turn.quiet h ht ?_ ?_ ?_ fun _ _ hh => hh.elim⟩
    · intro k x hk hx
      obtain ⟨i, rfl, rfl⟩ := afterGrant_eq hk
      exact Task.settle_uses rfl hx
    · intro k hk
      obtain ⟨i, rfl, rfl⟩ := afterGrant_eq hk
      trivial
    · intro k a hk hfor
      simp [Task.For, Task.Uses] at hfor
  | reserved ht => exact ⟨_, _, Turn.reserved h ht (.inl rfl)⟩
  | reserveLost ht => exact ⟨_, _, Turn.reserved h ht (.inr rfl)⟩
  | relayThrew thrown ht => exact ⟨_, _, Turn.relayThrew h ht⟩
  | relayed ht => exact ⟨_, _, Turn.relayed h ht⟩
  | undone ht => exact ⟨_, _, Turn.undone h ht _⟩
  | undoLost ht => exact ⟨_, _, Turn.undone h ht _⟩
  | undoFailed ht =>
    refine ⟨_, _, Turn.error h ht fun k hk => ?_⟩
    obtain ⟨i, rfl, rfl⟩ := afterGrant_eq hk
    exact ⟨i, .inr rfl, rfl⟩
  | ticketed ht =>
    refine ⟨_, _, Turn.quiet h ht ?_ ?_ ?_ fun _ _ hh => hh.elim⟩
    · rintro k x ⟨⟩ hx
      exact hx
    · rintro k ⟨⟩
      exact h.ran _ _ ht
    · rintro k a ⟨⟩ hfor
      obtain rfl := by simpa [Task.For, Task.Uses] using hfor
      exact .inr (.inl (.inl rfl))
  | ticketFailed ht =>
    refine ⟨_, _, Turn.error h ht fun k hk => ?_⟩
    obtain ⟨i, hp, rfl⟩ := afterError_settle hk
    exact ⟨i, .inr hp, rfl⟩
  | settledVerdict ht => exact ⟨_, _, Turn.verdict h ht (by simp)⟩
  | rejectedVerdict ht hl => exact ⟨_, _, Turn.verdict h ht fun _ => hl⟩
  | noVerdict ht => exact ⟨_, _, Turn.verdict h ht (by simp)⟩
  | completed ht => exact ⟨_, _, Turn.completed h ht fun k hk => afterComplete_eq hk⟩
  | completeLost ht =>
    refine ⟨_, _, Turn.completed h ht fun k hk => ?_⟩
    obtain ⟨i, hp, rfl⟩ := afterError_eq hk
    exact ⟨i, _, hp, rfl, by simp, by simp⟩
  | completeFailed ht =>
    refine ⟨_, _, Turn.error h ht fun k hk => ?_⟩
    obtain ⟨i, hp, rfl⟩ := afterError_settle hk
    exact ⟨i, .inr hp, rfl⟩
  | settled ht => exact ⟨_, _, Turn.settled ht⟩
  | stops ht => exact ⟨_, _, Turn.error h ht (by simp)⟩

end Kippu.Issuing
