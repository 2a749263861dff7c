import Kippu.Paying.Quiet

/-!
# What `pay` leaves behind

`pay` creates the provider's checkout inside the transaction that records it. Until that
transaction commits the checkout is payable and nothing of it is recorded, so whatever
fails or stops the call there leaves it so; a commit records it.
-/

namespace Kippu.Paying

open Conc Conc.Prog

set_option linter.unusedSectionVars false

section

variable {d₀ d : Shared Db Env} {l : Local Db Key} {g : Stage} {k : ProviderCheckoutId}
  {p : Pid}

-- ---------------------------------------------------------------------------
-- Where a call may stand
-- ---------------------------------------------------------------------------

/-- Nothing is created yet, and no transaction under way records a checkout that was not. -/
structure Before (d₀ : Shared Db Env) (l : Local Db Key) (d : Shared Db Env) : Prop where
  checkouts : ∀ k, d.env.checkouts.get k = none ↔ d₀.env.checkouts.get k = none
  known : ∀ k, Recorded d.db k → d₀.env.checkouts.get k ≠ none
  sessions : ∀ s ∈ l, ∀ u, s.tx = some u → ∀ db k, Recorded (u db) k → Recorded db k

structure Pending (d₀ : Shared Db Env) (k : ProviderCheckoutId) (d : Shared Db Env) : Prop where
  new : d₀.env.checkouts.get k = none
  payable : ∃ row, d.env.checkouts.get k = some row ∧ row.status = .opened
  unrecorded : ¬ Recorded d.db k
  only : ∀ j, d₀.env.checkouts.get j = none → d.env.checkouts.get j ≠ none → j = k

structure Done (d₀ : Shared Db Env) (k : ProviderCheckoutId) (d : Shared Db Env) : Prop where
  recorded : Recorded d.db k
  only : ∀ j, d₀.env.checkouts.get j = none → d.env.checkouts.get j ≠ none → j = k

def Stands (d₀ : Shared Db Env) : Standing Db Env Key Stage := fun g l d => match g with
  | .before => Before d₀ l d
  | .created k => Pending d₀ k d
  | .committed k => Done d₀ k d

theorem nothingBehind_iff (h : Stands d₀ g l d) : NothingBehind d₀ d ↔ g.Unbroken := by
  cases g with
  | before =>
    refine iff_of_true (fun k row hk hrow _ => ?_) trivial
    rw [(h.checkouts k).mpr hk] at hrow
    cases hrow
  | created k =>
    refine iff_of_false (fun hnothing => ?_) id
    obtain ⟨row, hrow, hopen⟩ := h.payable
    exact h.unrecorded (hnothing k row h.new hrow hopen)
  | committed k =>
    refine iff_of_true (fun j row hj hrow _ => ?_) trivial
    have hjk : j = k := h.only j hj (by simp [hrow])
    exact hjk ▸ h.recorded

-- ---------------------------------------------------------------------------
-- Before the creation
-- ---------------------------------------------------------------------------

variable [Profile]

theorem issueOnLedger_checkouts {env env' : Env} {input : IssueTicket}
    (h : issueOnLedger env input = .ok env') : env'.checkouts = env.checkouts := by
  unfold issueOnLedger at h
  split at h
  · cases h
  · split at h
    · cases h
    · split at h
      · cases h
      · dsimp only at h
        split_ifs at h
        cases h
        rfl

theorem judge_checkouts {env env' : Env} {s : Submission} (h : judge env s = .ok env') :
    env'.checkouts = env.checkouts := by
  unfold judge at h
  split at h
  · exact issueOnLedger_checkouts h
  · cases h
    rfl

theorem land_checkouts (env : Env) (op : OperationId) (refuse : Bool) (cursor : Cursor) :
    (land env op refuse cursor).checkouts = env.checkouts := by
  unfold land
  split
  · split
    · unfold settle
      split
      · rfl
      · split
        · rfl
        · rename_i hjudge
          have hsame := judge_checkouts hjudge
          exact hsame
    · rfl
  · rfl

theorem checkouts_none {β : Type} {call : Call β} (hq : quiet _ (.ext call : Op Db Key Call β))
    (p : Pid) (c : Choice) (env : Env) (k : ProviderCheckoutId) :
    (Outside.run call p c env : Env × Except Err β).1.checkouts.get k = none ↔
      env.checkouts.get k = none := by
  cases call with
  | createCheckout input => exact absurd hq id
  | assemble command =>
    simp only [Outside.run, assemble]
    split <;> rfl
  | sign op =>
    simp only [Outside.run, sign]
    split
    · split <;> rfl
    · rfl
  | verdict op =>
    have hland : ∀ refuse cursor, (land env op refuse cursor).checkouts = env.checkouts :=
      land_checkouts env op
    simp only [Outside.run, awaitVerdict]
    split <;> split <;> simp [hland]
  | _ => exact Iff.rfl

theorem Before.recorded_view (h : Before d₀ l d) (k : ProviderCheckoutId)
    (hk : Recorded (l.view d.db) k) : Recorded d.db k := by
  unfold Local.view at hk
  split at hk
  · exact h.sessions _ (List.mem_cons_self ..) _ rfl d.db k hk
  · exact hk

theorem Before.sessions_head {x x' : Session Db Key} (h : Before d₀ (x :: l) d)
    (hx : x'.tx = none ∨ x'.tx = x.tx) :
    ∀ s ∈ x' :: l, ∀ u, s.tx = some u → ∀ db k, Recorded (u db) k → Recorded db k := by
  intro s hs u hu
  cases List.mem_cons.mp hs with
  | inl heq =>
    subst heq
    obtain hnone | hsame := hx
    · rw [hnone] at hu
      cases hu
    · exact h.sessions x (List.mem_cons_self ..) u (hsame.symm.trans hu)
  | inr hs => exact h.sessions s (List.mem_cons_of_mem _ hs) u hu

theorem Before.sessions_endTx (h : Before d₀ l d) : ∀ s ∈ l.endTx, ∀ u, s.tx = some u →
    ∀ db k, Recorded (u db) k → Recorded db k := by
  cases l with
  | nil => exact h.sessions
  | cons x l => exact h.sessions_head (.inl rfl)

theorem Before.sessions_take (h : Before d₀ l d) (key : Key) : ∀ s ∈ l.take key,
    ∀ u, s.tx = some u → ∀ db k, Recorded (u db) k → Recorded db k := by
  cases l with
  | nil => exact h.sessions
  | cons x l => exact h.sessions_head (.inr rfl)

theorem Before.step {β : Type} {op : Op Db Key Call β} {o : Outcome} {l' : Local Db Key}
    {d' : Shared Db Env} {r : Except Err β} (h : Before d₀ l d) (hq : quiet β op)
    (hact : op.act p l d o = some (l', d', r)) :
    note _ op o d .before = .before ∧ Before d₀ l' d' := by
  cases op with
  | connect =>
    cases o <;> cases hact
    · refine ⟨rfl, h.checkouts, h.known, fun s hs u hu => ?_⟩
      cases List.mem_cons.mp hs with
      | inl heq =>
        subst heq
        cases hu
      | inr hs => exact h.sessions s hs u hu
    · exact ⟨rfl, h⟩
  | release =>
    cases o <;> cases hact
    exact ⟨rfl, h.checkouts, h.known, fun s hs => h.sessions s (List.mem_of_mem_tail hs)⟩
  | begin =>
    cases o <;> simp only [Op.act, Option.some.injEq, Prod.mk.injEq, reduceCtorEq] at hact
    · split at hact <;> simp only [Option.some.injEq, Prod.mk.injEq, reduceCtorEq] at hact
      obtain ⟨rfl, rfl, rfl⟩ := hact
      refine ⟨rfl, h.checkouts, h.known, fun s hs u hu => ?_⟩
      cases List.mem_cons.mp hs with
      | inl heq =>
        subst heq
        cases hu
        exact fun _ _ hrec => hrec
      | inr hs => exact h.sessions s (List.mem_cons_of_mem _ hs) u hu
    · obtain ⟨rfl, rfl, rfl⟩ := hact
      exact ⟨rfl, h⟩
  | commit =>
    have hend : ∀ s ∈ l.endTx, ∀ u, s.tx = some u → ∀ db k, Recorded (u db) k → Recorded db k :=
      h.sessions_endTx
    cases o <;> cases hact
    · exact ⟨rfl, h.checkouts, fun k hk => h.known k (h.recorded_view k hk), hend⟩
    · exact ⟨rfl, h.checkouts, h.known, hend⟩
    · exact ⟨rfl, h.checkouts, fun k hk => h.known k (h.recorded_view k hk), hend⟩
  | rollback =>
    cases o <;> cases hact
    all_goals exact ⟨rfl, h.checkouts, h.known, h.sessions_endTx⟩
  | lock key =>
    cases o <;> simp only [Op.act, Option.some.injEq, Prod.mk.injEq, reduceCtorEq] at hact
    · split at hact
      · simp only [Option.some.injEq, Prod.mk.injEq] at hact
        obtain ⟨rfl, rfl, rfl⟩ := hact
        exact ⟨rfl, h⟩
      · split at hact <;> simp only [Option.some.injEq, Prod.mk.injEq, reduceCtorEq] at hact
        obtain ⟨rfl, rfl, rfl⟩ := hact
        exact ⟨rfl, h.checkouts, h.known, h.sessions_take key⟩
    · obtain ⟨rfl, rfl, rfl⟩ := hact
      exact ⟨rfl, h⟩
  | scan ids =>
    cases o <;> simp only [Op.act, Option.some.injEq, Prod.mk.injEq, reduceCtorEq] at hact
    · obtain ⟨rfl, rfl, rfl⟩ := hact
      exact ⟨rfl, h⟩
    · split at hact <;> simp only [Option.some.injEq, Prod.mk.injEq, reduceCtorEq] at hact
      obtain ⟨rfl, rfl, rfl⟩ := hact
      exact ⟨rfl, h⟩
  | write u =>
    cases o <;> simp only [Op.act, Option.some.injEq, Prod.mk.injEq, reduceCtorEq] at hact
    · split at hact <;> simp only [Option.some.injEq, Prod.mk.injEq, reduceCtorEq] at hact
      obtain ⟨rfl, rfl, rfl⟩ := hact
      refine ⟨rfl, h.checkouts, h.known, fun s hs u' hu => ?_⟩
      cases List.mem_cons.mp hs with
      | inl heq =>
        subst heq
        cases hu
        intro db k hrec
        exact h.sessions _ (List.mem_cons_self ..) _ rfl db k (hq _ k hrec)
      | inr hs => exact h.sessions s (List.mem_cons_of_mem _ hs) u' hu
    · obtain ⟨rfl, rfl, rfl⟩ := hact
      exact ⟨rfl, h⟩
  | ext call =>
    cases o <;> cases hact
    rename_i c
    refine ⟨?_, fun k => (checkouts_none hq p c d.env k).trans (h.checkouts k), h.known, h.sessions⟩
    cases call with
    | createCheckout input => exact absurd hq id
    | _ => rfl

/-- A quiet program creates nothing, wherever it stops. -/
theorem along_quiet {m : Prog α} (hm : Quiet m) (h : Before d₀ l d) :
    Along note p (Stands d₀) m (fun _ g l d => g = .before ∧ Before d₀ l d) .before l d := by
  refine Along.weaken (J := fun g l d => g = .before ∧ Before d₀ l d) ?_ ?_
  · rintro g l d ⟨rfl, h⟩
    exact h
  · refine Along.only hm (fun β op hq g l d o l' d' r hbefore hact => ?_) ⟨rfl, h⟩
    obtain ⟨rfl, hbefore⟩ := hbefore
    exact hbefore.step hq hact

theorem along_quiet_bind {m : Prog α} {f : α → Prog β}
    {Q : Except Err β → Standing Db Env Key Stage} (hm : Quiet m) (h : Before d₀ l d)
    (herr : ∀ e l d, Before d₀ l d → Q (.error e) .before l d)
    (hf : ∀ a l d, Before d₀ l d → Along note p (Stands d₀) (f a) Q .before l d) :
    Along note p (Stands d₀) (m >>= f) Q .before l d := by
  refine Along.bind ((along_quiet hm h).mono fun r g l d _ hr => ?_)
  obtain ⟨rfl, hbefore⟩ := hr
  cases r with
  | ok a => exact hf a l d hbefore
  | error e => exact ⟨hbefore, herr e l d hbefore⟩

-- ---------------------------------------------------------------------------
-- Between the creation and the commit
-- ---------------------------------------------------------------------------

def still : (β : Type) → Op Db Key Call β → Prop
  | _, .ext .random => True
  | _, .ext _ => False
  | _, .commit => False
  | _, _ => True

theorem still_data {β : Type} {op : Op Db Key Call β} {o : Outcome} {l' : Local Db Key}
    {d' : Shared Db Env} {r : Except Err β} (hop : still β op)
    (hact : op.act p l d o = some (l', d', r)) : d' = d ∧ note _ op o d g = g := by
  cases op with
  | ext call =>
    cases call with
    | random =>
      cases o <;> cases hact
      exact ⟨rfl, rfl⟩
    | _ => exact absurd hop id
  | commit => exact absurd hop id
  | lock key =>
    cases o <;> simp only [Op.act, Option.some.injEq, Prod.mk.injEq, reduceCtorEq] at hact
    · split at hact
      · simp only [Option.some.injEq, Prod.mk.injEq] at hact
        exact ⟨hact.2.1.symm, rfl⟩
      · split at hact <;> simp only [Option.some.injEq, Prod.mk.injEq, reduceCtorEq] at hact
        exact ⟨hact.2.1.symm, rfl⟩
    · exact ⟨hact.2.1.symm, rfl⟩
  | begin | scan ids | write u =>
    cases o <;> simp only [Op.act, Option.some.injEq, Prod.mk.injEq, reduceCtorEq] at hact
    all_goals first
      | exact ⟨hact.2.1.symm, rfl⟩
      | split at hact <;> simp only [Option.some.injEq, Prod.mk.injEq, reduceCtorEq] at hact
        exact ⟨hact.2.1.symm, rfl⟩
  | connect | release | rollback =>
    cases o <;> cases hact <;> exact ⟨rfl, rfl⟩

theorem along_still_at {m : Prog α} (hm : m.Only still) {P : Shared Db Env → Prop}
    (hP : ∀ l d, P d → Stands d₀ g l d) (h : P d) :
    Along note p (Stands d₀) m (fun _ g' _ d => g' = g ∧ P d) g l d := by
  refine Along.weaken (J := fun g' _ d => g' = g ∧ P d) ?_ ?_
  · rintro g l d ⟨rfl, h⟩
    exact hP l d h
  · refine Along.only hm (fun β op hop g' l d o l' d' r hat hact => ?_) ⟨rfl, h⟩
    obtain ⟨rfl, hnote⟩ := still_data (g := g') hop hact
    rw [hnote]
    exact hat

def Waits (d₀ : Shared Db Env) (k : ProviderCheckoutId) : Standing Db Env Key Stage :=
  fun g _ d => g = .created k ∧ Pending d₀ k d

theorem along_still {m : Prog α} (hm : m.Only still) (h : Waits d₀ k g l d) :
    Along note p (Stands d₀) m (fun _ => Waits d₀ k) g l d := by
  obtain ⟨rfl, hpending⟩ := h
  exact along_still_at hm (P := Pending d₀ k) (fun _ _ h => h) hpending

def Writes (k : ProviderCheckoutId) (l : Local Db Key) : Prop :=
  ∃ ks u rest, l = ⟨ks, some u⟩ :: rest ∧ ∀ db, Recorded (u db) k

def Recording (d₀ : Shared Db Env) (k : ProviderCheckoutId) (r : Except Err α) :
    Standing Db Env Key Stage := fun g l d =>
  Waits d₀ k g l d ∧ ∀ a, r = .ok a → Writes k l

theorem along_still_bind {m : Prog α} {f : α → Prog β} (hm : m.Only still)
    (h : Waits d₀ k g l d)
    (hf : ∀ a g l d, Waits d₀ k g l d →
      Along note p (Stands d₀) (f a) (Recording d₀ k) g l d) :
    Along note p (Stands d₀) (m >>= f) (Recording d₀ k) g l d := by
  refine Along.bind ((along_still hm h).mono fun r g l d hstands hwaits => ?_)
  cases r with
  | ok a => exact hf a g l d hwaits
  | error e => exact ⟨hstands, hwaits, nofun⟩

theorem along_read {f : Db → α} (h : Waits d₀ k g l d) :
    Along note p (Stands d₀) (read f : Prog α)
      (fun r g l d => Waits d₀ k g l d ∧ ∀ a, r = .ok a → ∃ db, a = f db) g l d := by
  have hscan : (scan fun _ => ∅ : Prog (Db × List ℕ)).Only still := only_perform trivial
  refine Along.bind ((along_still hscan h).mono fun r g l d hstands hwaits => ?_)
  cases r with
  | ok found => exact ⟨hstands, hwaits, fun a ha => ⟨found.1, by cases ha; rfl⟩⟩
  | error e => exact ⟨hstands, hwaits, nofun⟩

theorem along_write {u : Db → Db} (hu : ∀ db, Recorded (u db) k) (h : Waits d₀ k g l d) :
    Along note p (Stands d₀) (write u : Prog Unit) (Recording d₀ k) g l d := by
  obtain ⟨rfl, hpending⟩ := h
  refine Along.op hpending fun o l' d' r hact => ?_
  cases o <;> simp only [Op.act, Option.some.injEq, Prod.mk.injEq, reduceCtorEq] at hact
  · split at hact <;> simp only [Option.some.injEq, Prod.mk.injEq, reduceCtorEq] at hact
    obtain ⟨rfl, rfl, rfl⟩ := hact
    exact ⟨hpending, ⟨rfl, hpending⟩, fun _ _ => ⟨_, _, _, rfl, fun db => hu _⟩⟩
  · obtain ⟨rfl, rfl, rfl⟩ := hact
    exact ⟨hpending, ⟨rfl, hpending⟩, nofun⟩

theorem along_step {checkout : CheckoutId} {step : CheckoutStep} (h : Waits d₀ k g l d)
    (hl : Writes k l) :
    Along note p (Stands d₀) (recordCheckoutStep checkout step) (Recording d₀ k) g l d := by
  obtain ⟨rfl, hpending⟩ := h
  obtain ⟨ks, u, rest, rfl, hu⟩ := hl
  refine Along.op hpending fun o l' d' r hact => ?_
  cases o <;> simp only [Op.act, Option.some.injEq, Prod.mk.injEq, reduceCtorEq] at hact
  · obtain ⟨rfl, rfl, rfl⟩ := hact
    refine ⟨hpending, ⟨rfl, hpending⟩, fun _ _ => ⟨_, _, _, rfl, fun db => ?_⟩⟩
    obtain ⟨id, row, hrow, hk⟩ := hu db
    exact ⟨id, row, hrow, hk⟩
  · obtain ⟨rfl, rfl, rfl⟩ := hact
    exact ⟨hpending, ⟨rfl, hpending⟩, nofun⟩

theorem only_lock_still (key : Key) : (lock key : Prog Unit).Only still :=
  only_perform trivial

theorem along_insertHosted {id : HostedId} {row : Hosted} (hrow : row.providerCheckout = k)
    (h : Waits d₀ k g l d) :
    Along note p (Stands d₀) (insertHosted id row) (Recording d₀ k) g l d := by
  refine along_still_bind (only_ite (only_pure ()) (only_raise _)) h fun _ g l d h => ?_
  refine Along.bind (Along.mono (Q := fun r g l d => Waits d₀ k g l d ∧
    ∀ a, r = .ok a → Writes k l) ?_ fun r g l d hstands hr => ?_)
  · refine along_still_bind (only_forEach only_lock_still _) h fun _ g l d h => ?_
    refine Along.bind ((along_read h).mono fun r g l d hstands hr => ?_)
    obtain ⟨hwaits, hfound⟩ := hr
    cases r with
    | error e => exact ⟨hstands, hwaits, nofun⟩
    | ok found =>
      obtain ⟨db, rfl⟩ := hfound found rfl
      show Along note p (Stands d₀) (if _ then _ else if false = true then _ else _) _ g l d
      split
      · exact ⟨hstands, hwaits, nofun⟩
      · refine Along.bind ((along_write (fun db => ⟨id, row, ?_, hrow⟩) hwaits).mono
          fun r g l d hstands hr => ?_)
        · exact Table.get_set_self _
        · cases r with
          | ok u => exact ⟨hstands, hr.1, fun _ _ => hr.2 () rfl⟩
          | error e => exact ⟨hstands, hr.1, nofun⟩
  · cases r with
    | ok a => exact ⟨hstands, hr.1, fun _ _ => hr.2 a rfl⟩
    | error e => exact ⟨hstands, hr.1, nofun⟩

-- ---------------------------------------------------------------------------
-- The transaction
-- ---------------------------------------------------------------------------

theorem along_createCheckout {input : CreateHostedCheckout} (h : Before d₀ l d) :
    Along note p (Stands d₀) (ext (.createCheckout input) : Prog _)
      (fun r g l d => match g with
        | .before => Before d₀ l d ∧ ∃ e, r = .error e
        | .created k => Pending d₀ k d ∧ ∀ a, r = .ok a → a.1 = k
        | .committed _ => False) .before l d := by
  refine Along.op h fun o l' d' r hact => ?_
  cases o <;> simp only [Op.act, Option.some.injEq, Prod.mk.injEq, reduceCtorEq] at hact
  rename_i c
  obtain ⟨rfl, rfl, rfl⟩ := hact
  simp only [note, Outside.run, createCheckout]
  split
  · rename_i hnew
    obtain ⟨_, hnone⟩ := Bool.and_eq_true_iff.mp hnew
    rw [Option.isNone_iff_eq_none] at hnone
    have hnone₀ := (h.checkouts c.value).mp hnone
    have hpending : Pending d₀ c.value { d with env := { d.env with
        checkouts := d.env.checkouts.set c.value ⟨.opened, c.value, input.amount, input.asset,
          input.holdId⟩ } } :=
      { new := hnone₀
        payable := ⟨_, Table.get_set_self _, rfl⟩
        unrecorded := fun hrec => h.known _ hrec hnone₀
        only := fun j hj hcreated => by
          by_contra hne
          rw [Table.get_set_ne _ hne] at hcreated
          exact hcreated ((h.checkouts j).mpr hj) }
    refine ⟨hpending, hpending, fun a ha => ?_⟩
    unfold reply at ha
    split at ha
    · cases ha
      rfl
    · cases ha
  · exact ⟨h, h, _, rfl⟩

def BodyEnds (d₀ : Shared Db Env) (r : Except Err PayStep) : Standing Db Env Key Stage :=
  fun g l d => match g with
    | .before => Before d₀ l d
    | .created k => Pending d₀ k d ∧ ∀ step, r = .ok step →
        (∃ payment, step = .payment payment) ∧ Writes k l
    | .committed _ => False

theorem along_startPayment {hold : HoldRow} {price : ℕ} {asset : Asset} {at_ : Time}
    (h : Before d₀ l d) :
    Along note p (Stands d₀) (startPayment hold price asset at_) (BodyEnds d₀) .before l d := by
  refine along_quiet_bind (quiet_extendForPayment _ _) h (fun _ _ _ h => h) fun _ l d h => ?_
  refine along_quiet_bind (quiet_findClass _ _) h (fun _ _ _ h => h) fun _ l d h => ?_
  refine Along.bind ((along_createCheckout h).mono fun r g l d hstands hr => ?_)
  cases g with
  | before =>
    obtain ⟨hbefore, e, rfl⟩ := hr
    exact ⟨hbefore, hbefore⟩
  | committed k => exact absurd hr id
  | created k =>
    obtain ⟨hpending, hid⟩ := hr
    cases r with
    | error e => exact ⟨hpending, hpending, nofun⟩
    | ok answer =>
      obtain ⟨checkout, created⟩ := answer
      have hk : checkout = k := hid _ rfl
      have hwaits : Waits d₀ k (.created k) l d := ⟨rfl, hpending⟩
      refine Along.mono (Q := fun r g l d => Waits d₀ k g l d ∧
        ∀ step, r = .ok step → (∃ payment, step = .payment payment) ∧ Writes k l) ?_ ?_
      · have hrandom : randomUUID.Only still := only_perform trivial
        refine Along.bind ((along_still hrandom hwaits).mono fun r g l d hstands hwaits => ?_)
        cases r with
        | error e => exact ⟨hstands, hwaits, nofun⟩
        | ok id =>
          refine Along.bind ((along_insertHosted hk hwaits).mono fun r g l d hstands hr => ?_)
          cases r with
          | error e => exact ⟨hstands, hr.1, nofun⟩
          | ok u =>
            refine Along.bind ((along_step hr.1 (hr.2 u rfl)).mono fun r g l d hstands hr => ?_)
            cases r with
            | error e => exact ⟨hstands, hr.1, nofun⟩
            | ok u' =>
              refine ⟨hstands, hr.1, fun step hstep => ?_⟩
              cases hstep
              exact ⟨⟨_, rfl⟩, hr.2 u' rfl⟩
      · rintro r g l d _ ⟨⟨rfl, hpending⟩, hstep⟩
        exact ⟨hpending, hstep⟩

theorem along_payStep {token : ℕ} (h : Before d₀ l d) :
    Along note p (Stands d₀) (payStep token) (BodyEnds d₀) .before l d := by
  refine along_quiet_bind (quiet_holdByToken token) h (fun _ _ _ h => h) fun hold l d h => ?_
  refine along_quiet_bind quiet_now h (fun _ _ _ h => h) fun at_ l d h => ?_
  split
  · exact ⟨h, h⟩
  · refine along_quiet_bind (quiet_read _) h (fun _ _ _ h => h) fun closed l d h => ?_
    split
    · exact ⟨h, h⟩
    · refine along_quiet_bind (quiet_openHosted _) h (fun _ _ _ h => h) fun found l d h => ?_
      cases found with
      | none => exact along_startPayment h
      | some hosted =>
        have hretrieve : Quiet (ext (.retrieve hosted.providerCheckout)) :=
          only_perform trivial
        refine along_quiet_bind hretrieve h (fun _ _ _ h => h) fun remote l d h => ?_
        split
        · exact ⟨h, h⟩
        · refine along_quiet_bind (quiet_recordStatus _ _) h (fun _ _ _ h => h) fun _ l d h => ?_
          split
          · exact ⟨h, h⟩
          · exact along_startPayment h

def TxEnds (d₀ : Shared Db Env) (r : Except Err (PayStep × Except Err Unit)) :
    Standing Db Env Key Stage := fun g l d => match g with
  | .before => Before d₀ l d
  | .created k => Pending d₀ k d ∧ ∀ a, r = .ok a → ∃ payment, a.1 = .payment payment
  | .committed k => Done d₀ k d ∧ ∀ a, r = .ok a → ∃ payment, a.1 = .payment payment

/-- A transaction that failed once the checkout was created: it is rolled back, and its
connection given back. -/
theorem along_abandon {e : Err} (h : Waits d₀ k g l d) :
    Along note p (Stands d₀) (abandon e : Prog α)
      (fun r g l d => Waits d₀ k g l d ∧ ∃ e', r = .error e') g l d := by
  have hrollback : (attempt rollback : Prog (Except Err Unit)).Only still :=
    only_attempt (only_perform trivial)
  have hrelease : (Conc.Prog.release : Prog Unit).Only still := only_perform trivial
  refine Along.bind ((along_still hrollback h).mono fun undone g l d hstands h => ?_)
  cases undone with
  | error e' => exact ⟨hstands, h, e', rfl⟩
  | ok undone =>
    refine Along.bind ((along_still hrelease h).mono fun r g l d hstands h => ?_)
    cases r with
    | error e' => exact ⟨hstands, h, e', rfl⟩
    | ok u =>
      cases undone with
      | ok u => exact ⟨hstands, h, e, rfl⟩
      | error e' => exact ⟨hstands, h, e', rfl⟩

theorem along_conclude {undo : Bool} (h : Waits d₀ k g l d) (hl : Writes k l) :
    Along note p (Stands d₀) (conclude undo : Prog (Except Err Unit))
      (fun _ g _ d => g = .created k ∧ Pending d₀ k d ∨ g = .committed k ∧ Done d₀ k d) g l d := by
  obtain ⟨rfl, hpending⟩ := h
  obtain ⟨ks, u, rest, rfl, hu⟩ := hl
  have hdone : Done d₀ k { d with db := u d.db } := ⟨hu d.db, hpending.only⟩
  have hrelease : ∀ x : Except Err Unit,
      (Conc.Prog.release >>= fun _ => pure x : Prog (Except Err Unit)).Only still := fun _ =>
    only_bind (only_perform trivial) fun _ => only_pure _
  have hundo : ∀ e : Err, (rollbackIf undo >>= fun _ => Conc.Prog.release >>= fun _ =>
      pure (.error e) : Prog (Except Err Unit)).Only still := fun e =>
    only_bind (only_ite (only_attempt (only_perform trivial)) (only_pure _)) fun _ =>
      hrelease _
  refine Along.bind (Along.attempt (Along.op hpending fun o l' d' r hact => ?_))
  cases o <;> cases hact
  · exact ⟨hdone, (along_still_at (g := .committed k) (P := Done d₀ k) (hrelease _)
      (fun _ _ h => h) hdone).mono fun _ _ _ _ _ h => .inr h⟩
  · exact ⟨hpending, (along_still_at (g := .created k) (P := Pending d₀ k) (hundo _)
      (fun _ _ h => h) hpending).mono fun _ _ _ _ _ h => .inl h⟩
  · exact ⟨hdone, (along_still_at (g := .committed k) (P := Done d₀ k) (hundo _)
      (fun _ _ h => h) hdone).mono fun _ _ _ _ _ h => .inr h⟩

theorem along_transaction {token : ℕ} (h : Before d₀ l d) :
    Along note p (Stands d₀) (transactionWith PayStep.undo (payStep token)) (TxEnds d₀)
      .before l d := by
  have hconnect : Quiet (connect : Prog Unit) := only_perform trivial
  have hbegin : Quiet (begin : Prog Unit) := only_perform trivial
  refine along_quiet_bind hconnect h (fun _ _ _ h => h) fun _ l d h => ?_
  refine Along.bind (Along.attempt ?_)
  refine Along.mono (Q := BodyEnds d₀) (along_quiet_bind hbegin h (fun _ _ _ h => h)
    fun _ l d h => along_payStep h) fun r g l d _ hr => ?_
  cases g with
  | committed k => exact absurd hr id
  | before =>
    have hends : ∀ (r : Except Err (PayStep × Except Err Unit)) (g : Stage) (l : Local Db Key) d,
        g = .before ∧ Before d₀ l d → TxEnds d₀ r g l d := by
      rintro r g l d ⟨rfl, hbefore⟩
      exact hbefore
    cases r with
    | ok a =>
      have hrest : Quiet (conclude a.undo >>= fun committed => pure (a, committed)) :=
        only_bind (quiet_conclude _) fun _ => only_pure _
      exact (along_quiet hrest hr).mono fun r g l d _ => hends r g l d
    | error e => exact (along_quiet (quiet_abandon e) hr).mono fun r g l d _ => hends r g l d
  | created k =>
    obtain ⟨hpending, hstep⟩ := hr
    cases r with
    | error e =>
      have hwaits : Waits d₀ k (.created k) l d := ⟨rfl, hpending⟩
      refine (along_abandon hwaits).mono ?_
      rintro r g l d _ ⟨⟨rfl, hpending⟩, e', rfl⟩
      exact ⟨hpending, fun a ha => by cases ha⟩
    | ok step =>
      obtain ⟨⟨payment, rfl⟩, hl⟩ := hstep step rfl
      refine Along.bind ((along_conclude ⟨rfl, hpending⟩ hl).mono fun r g l d hstands hr => ?_)
      obtain ⟨rfl, hend⟩ | ⟨rfl, hend⟩ := hr
      · cases r with
        | ok committed => exact ⟨hstands, hend, fun a ha => ⟨payment, by cases ha; rfl⟩⟩
        | error e => exact ⟨hstands, hend, fun a ha => by cases ha⟩
      · cases r with
        | ok committed => exact ⟨hstands, hend, fun a ha => ⟨payment, by cases ha; rfl⟩⟩
        | error e => exact ⟨hstands, hend, fun a ha => by cases ha⟩

theorem along_pay {requestId : RequestId} {token : ℕ} (h : Before d₀ l d) :
    Along note p (Stands d₀) (pay requestId token) (fun _ => Stands d₀) .before l d := by
  refine Along.bind ((along_transaction h).mono fun r g l d hstands hr => ?_)
  cases r with
  | error e => exact ⟨hstands, hstands⟩
  | ok ended =>
    obtain ⟨step, committed⟩ := ended
    cases g with
    | before =>
      have hstands' : ∀ (r : Except Err CheckoutPayment) (g : Stage) (l : Local Db Key) d,
          g = .before ∧ Before d₀ l d → Stands d₀ g l d := by
        rintro r g l d ⟨rfl, hbefore⟩
        exact hbefore
      cases step with
      | payment payment => cases committed <;> exact ⟨hstands, hstands⟩
      | paidFirst checkout =>
        have hrest : ∀ e, Quiet (attempt (reconcile requestId checkout) >>= fun _ =>
            raise e : Prog CheckoutPayment) := fun e =>
          only_bind (only_attempt (quiet_reconcile _ _)) fun _ => only_raise e
        cases committed with
        | ok u => exact (along_quiet (hrest _) hr).mono fun r g l d _ => hstands' r g l d
        | error e => exact (along_quiet (hrest e) hr).mono fun r g l d _ => hstands' r g l d
    | created k | committed k =>
      obtain ⟨payment, hpayment⟩ := hr.2 _ rfl
      cases hpayment
      cases committed <;> exact ⟨hstands, hstands⟩

theorem stands_payRun {requestId : RequestId} {token : ℕ} {outcomes : List Outcome} {s : At}
    (hd : Known d) (h : payRun p requestId token d outcomes = some s) :
    Stands d s.noted s.sessions s.data := by
  have hbefore : Before d [] d :=
    { checkouts := fun _ => Iff.rfl
      known := fun k hk hnone => by
        have hsome := hd k hk
        rw [hnone] at hsome
        cases hsome
      sessions := fun s hs => by cases hs }
  have halong : Along note p (Stands d) (pay requestId token) (fun _ => Stands d) .before [] d :=
    along_pay hbefore
  exact halong.sound h

/-- A call of `pay` leaves nothing payable behind if and only if no stop or failure came between
the creation of a checkout and the commit that records it. -/
theorem nothing_behind_iff (p : Pid) (requestId : RequestId) (token : ℕ) (d : Shared Db Env)
    (hd : Known d) (outcomes : List Outcome) (s : At)
    (h : payRun p requestId token d outcomes = some s) :
    NothingBehind d s.data ↔ s.noted.Unbroken :=
  nothingBehind_iff (stands_payRun hd h)

end

-- ---------------------------------------------------------------------------
-- A checkout left behind
-- ---------------------------------------------------------------------------

def outstanding : Shared Db Env where
  db := { Db.empty with
    checkouts := Table.empty.set 1 ⟨1, 5, 2, 3, none, 0, some 9, true⟩
    holds := Table.empty.set 7 ⟨1, 5, 2, 3, none, .outstanding, 100, none, some 10, some 1⟩ }
  env := ⟨.empty, .empty, .empty, .empty⟩

theorem known_outstanding : Known outstanding := by
  rintro k ⟨id, row, hrow, -⟩
  cases hrow

@[reducible] def profile : Profile := ⟨fun _ _ _ => 0, fun s => s⟩

/-- Up to the provider's creating checkout 4, and the locks of the row's insertion. -/
def creating : List Outcome :=
  [.ok, .ok, .order [7], .ok, .order [], .reply ⟨true, true, 10⟩, .order [], .order [],
    .order [], .ok, .order [], .ok, .ok, .ok, .order [], .ok, .ok, .reply ⟨true, true, 4⟩,
    .reply ⟨true, true, 8⟩, .ok, .ok, .ok, .order []]

/-- The insertion fails, and is rolled back. -/
def failing : List Outcome := creating ++ [.fail, .ok, .ok]

/-- The insertion and the audit step succeed, and are committed. -/
def succeeding : List Outcome := creating ++ [.ok, .ok, .ok, .ok]

/-- The call ends with an error, its row is rolled back, and the provider's checkout stays
payable. -/
theorem checkout_left_behind : ∃ s : At,
    @payRun profile 0 1 1 outstanding failing = some s ∧ s.failed = true ∧
      ¬ NothingBehind outstanding s.data := by
  have hrun : (@payRun profile 0 1 1 outstanding failing).map
      (fun s => (s.noted, s.failed)) = some (.created 4, true) := by decide +kernel
  obtain ⟨s, hs, hend⟩ := Option.map_eq_some_iff.mp hrun
  obtain ⟨hcreated, hfailed⟩ := Prod.mk.inj hend
  have hstands := @stands_payRun _ _ profile _ _ _ _ known_outstanding hs
  refine ⟨s, hs, hfailed, fun hnothing => ?_⟩
  have hunbroken := (nothingBehind_iff hstands).mp hnothing
  rw [hcreated] at hunbroken
  exact hunbroken

theorem nothing_behind_iff_paid : ∃ s : At,
    @payRun profile 0 1 1 outstanding succeeding = some s ∧
      NothingBehind outstanding s.data := by
  have hrun : (@payRun profile 0 1 1 outstanding succeeding).map Alone.noted =
      some (.committed 4) := by decide +kernel
  obtain ⟨s, hs, hcommitted⟩ := Option.map_eq_some_iff.mp hrun
  refine ⟨s, hs, ?_⟩
  refine (@nothing_behind_iff profile 0 1 1 outstanding known_outstanding succeeding s
    hs).mpr ?_
  rw [hcommitted]
  trivial

end Kippu.Paying
