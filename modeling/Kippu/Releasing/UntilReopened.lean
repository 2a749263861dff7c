import Kippu.Releasing.Facts

/-!
# A released event stays released

Until the event's sales are reopened, nothing that `releaseAll` has released comes back
(`released_until_reopened`). `pay` takes no allocation lock: it has its hold's row locked
from before it reads that sales are open, so `releaseAll` comes to that hold after it.
-/

namespace Kippu.Releasing

variable {d d' : Store} {s s' s₀ : State} {c : Call} {o : Option Call} {t : Task} {at_ : Time}
  {e : EventId} {i : HoldId} {k : HostedId} {j : SaleId} {r : Release} {p p' : HoldId → Prop}
  {q q' : HostedId → Prop}

-- ---------------------------------------------------------------------------
-- What a run of `releaseAll` has done
-- ---------------------------------------------------------------------------

/-- The provider takes no payment for a checkout any more, and one it took is handled. -/
def Store.Settled (d : Store) (k : HostedId) : Prop :=
  ∃ x, d.remote k = some x ∧ x.status ≠ .opened ∧ (x.status = .paid → d.Handled k)

def Store.Paid (d : Store) (k : HostedId) : Prop :=
  ∃ x h, d.remote k = some x ∧ x.status = .paid ∧ d.hosted k = some h

def Store.HoldOf (d : Store) (k : HostedId) (i : HoldId) : Prop :=
  ∃ h, d.hosted k = some h ∧ h.hold = i

/-- The outstanding holds of the event are among `p`, and the checkouts it found open are settled
but for those among `q`. -/
structure Store.Done (d : Store) (r : Release) (p : HoldId → Prop) (q : HostedId → Prop) :
    Prop where
  reopened : r.reopened ≤ d.reopened r.event
  closed : d.reopened r.event = r.reopened → d.closed r.event = true
  holds : d.reopened r.event = r.reopened → ∀ i h, d.holds i = some h → h.event = r.event →
    h.status = .outstanding → p i
  seen : ∀ k ∈ r.seen, d.Settled k ∨ q k

def Store.HoldsOf (d : Store) (l : List HostedId) (i : HoldId) : Prop := ∃ k ∈ l, d.HoldOf k i

/-- What `reconcile` goes by when it is `releaseAll`'s. -/
def Store.Settles (d : Store) (k : HostedId) : After → Prop
  | none => True
  | some (r, todo) => d.Done r (d.HoldsOf (k :: todo)) (· ∈ k :: todo) ∧
      ∀ k' ∈ k :: todo, d.Paid k'

def Store.Knows (d : Store) : Task → Prop
  | .created i k _ => ∃ x, d.remote k = some x ∧ x.hold = i
  | .gave _ _ status | .swept _ status => status ≠ .opened
  | .reconciling k after => d.Settles k after
  | .answered k x after => d.Settles k after ∧ (after.isSome = true → x.status = .paid) ∧
      ∃ y, d.remote k = some y ∧ y.hold = x.hold
  | .taking k _ after => d.Settles k after
  | .decided k v after => d.Settles k after ∧
      match v with
      | .handled => d.Handled k
      | _ => True
  | .closed e n => n ≤ d.reopened e ∧ (d.reopened e = n → d.closed e = true)
  | .clearing r todo => d.Done r (fun i => i ∈ todo ∨ d.HoldsOf r.paid i) (· ∈ r.paid) ∧
      ∀ k ∈ r.paid, d.Paid k
  | .clears r i todo => d.Done r (fun i' => i' ∈ i :: todo ∨ d.HoldsOf r.paid i') (· ∈ r.paid) ∧
      ∀ k ∈ r.paid, d.Paid k
  | .looked r i todo found =>
      d.Done r (fun i' => i' ∈ i :: todo ∨ d.HoldsOf r.paid i')
        (fun k => k ∈ r.paid ∨ found = some k) ∧
      (∀ k ∈ r.paid, d.Paid k) ∧ ∀ k, found = some k → d.HoldOf k i
  | .cancelled r i todo k status =>
      d.Done r (fun i' => i' ∈ i :: todo ∨ d.HoldsOf r.paid i') (fun k' => k' ∈ r.paid ∨ k = k') ∧
      (∀ k ∈ r.paid, d.Paid k) ∧ d.HoldOf k i ∧
      ∃ x, d.remote k = some x ∧ x.status = status ∧ status ≠ .opened
  | .settling r todo => d.Done r (d.HoldsOf todo) (· ∈ todo) ∧ ∀ k ∈ todo, d.Paid k
  | .released r => d.Done r (fun _ => False) (fun _ => False)
  | _ => True

def State.HasRow (s : State) (c : Call) (i : HoldId) : Prop :=
  s.rowLock i = some c ∧ ∃ h, s.holds i = some h ∧ h.status = .outstanding

def State.HasAlloc (s : State) (c : Call) (k : HostedId) (p : EventId → Prop) : Prop :=
  ∃ h hd, s.hosted k = some h ∧ s.holds h.hold = some hd ∧ s.alloc hd.event = some c ∧ p hd.event

def State.Locks (s : State) (c : Call) : Task → Prop
  | .placing e | .closing e => s.alloc e = some c
  | .onSale e => s.alloc e = some c ∧ s.closed e = false
  | .paying i | .selling i | .told i _ _ | .created i _ _ => s.HasRow c i
  | .giving i | .gave i _ _ | .clears _ i _ | .looked _ i _ _ | .cancelled _ i _ _ _ =>
    s.rowLock i = some c
  | .taking k _ _ => s.HasAlloc c k fun _ => True
  | .decided k .takes _ => s.HasAlloc c k fun e => s.closed e = false
  | _ => True

structure Inv (s : State) : Prop where
  facts : Facts s.toStore
  knows : ∀ c, s.Knows (s.task c)
  locks : ∀ c, s.Locks c (s.task c)

-- ---------------------------------------------------------------------------
-- What others' writes leave of it
-- ---------------------------------------------------------------------------

theorem Later.paid (hl : Later d d') (h : d.Paid k) : d'.Paid k := by
  obtain ⟨x, hd, hx, hp, hk⟩ := h
  obtain ⟨hd', hk', -⟩ := hl.hosted k hd hk
  exact ⟨x, hd', hl.remote k x hx (by simp [hp]), hp, hk'⟩

theorem Later.settled (hl : Later d d') (h : d.Settled k) : d'.Settled k := by
  obtain ⟨x, hx, hs, hp⟩ := h
  exact ⟨x, hl.remote k x hx hs, hs, fun he => hl.handled k (hp he)⟩

theorem Later.holdOf (hl : Later d d') (h : d.HoldOf k i) : d'.HoldOf k i := by
  obtain ⟨x, hx, rfl⟩ := h
  exact hl.hosted k x hx

theorem Later.holdsOf (hl : Later d d') {l : List HostedId} (h : d.HoldsOf l i) :
    d'.HoldsOf l i := by
  obtain ⟨k, hk, hi⟩ := h
  exact ⟨k, hk, hl.holdOf hi⟩

theorem Later.done (hl : Later d d') (h : d.Done r p q)
    (hp : ∀ i h', d'.holds i = some h' → h'.event = r.event → h'.status = .outstanding →
      p i → p' i)
    (hq : ∀ k, q k → d'.Settled k ∨ q' k) : d'.Done r p' q' where
  reopened := h.reopened.trans (hl.reopened _)
  closed he := by
    have hle := hl.reopened r.event
    have := h.reopened
    exact hl.closed _ (by omega) (h.closed (by omega))
  holds he i h' hi hev ho := by
    have hle := hl.reopened r.event
    have hr := h.reopened
    have hc := h.closed (by omega)
    obtain ⟨x, hx, hxe, hxo⟩ := hl.outstanding i h' hi ho (by rw [hev]; omega) (hev ▸ hc)
    exact hp i h' hi hev ho (h.holds (by omega) i x hx (hxe.trans hev) hxo)
  seen k hk := by
    rcases h.seen k hk with hs | hs
    · exact .inl (hl.settled hs)
    · exact hq k hs

theorem Later.done_mono (hl : Later d d') (h : d.Done r p q) (hp : ∀ i, p i → p' i) :
    d'.Done r p' q := hl.done h (fun i _ _ _ _ => hp i) fun _ hk => .inr hk

theorem Later.settles (hl : Later d d') {after : After} (h : d.Settles k after) :
    d'.Settles k after := by
  cases after with
  | none => trivial
  | some a => exact ⟨hl.done_mono h.1 fun _ => hl.holdsOf, fun k' hk' => hl.paid (h.2 k' hk')⟩

theorem Later.knows (hl : Later d d') (h : d.Knows t) : d'.Knows t := by
  have hpaid : ∀ {l : List HostedId}, (∀ k ∈ l, d.Paid k) → ∀ k ∈ l, d'.Paid k :=
    fun h k hk => hl.paid (h k hk)
  have hor : ∀ {l : List HoldId} {r : Release} (i : HoldId), i ∈ l ∨ d.HoldsOf r.paid i →
      i ∈ l ∨ d'.HoldsOf r.paid i := fun _ h => h.imp_right hl.holdsOf
  cases t with
  | created i k old =>
    obtain ⟨x, hx, rfl⟩ := h
    exact hl.known k x hx
  | reconciling k after => exact hl.settles h
  | answered k x after =>
    obtain ⟨y, hy, hyx⟩ := h.2.2
    obtain ⟨z, hz, hzy⟩ := hl.known k y hy
    exact ⟨hl.settles h.1, h.2.1, z, hz, hzy.trans hyx⟩
  | taking k x after => exact hl.settles h
  | decided k v after =>
    refine ⟨hl.settles h.1, ?_⟩
    cases v with
    | handled => exact hl.handled k h.2
    | _ => trivial
  | closed e n =>
    have hle := hl.reopened e
    exact ⟨h.1.trans hle, fun he => hl.closed e (by have := h.1; omega)
      (h.2 (by have := h.1; omega))⟩
  | clearing r todo => exact ⟨hl.done_mono h.1 hor, hpaid h.2⟩
  | clears r i todo => exact ⟨hl.done_mono h.1 hor, hpaid h.2⟩
  | looked r i todo found =>
    exact ⟨hl.done_mono h.1 hor, hpaid h.2.1, fun k hk => hl.holdOf (h.2.2 k hk)⟩
  | cancelled r i todo k status =>
    obtain ⟨x, hx, rfl, hs⟩ := h.2.2.2
    exact ⟨hl.done_mono h.1 hor, hpaid h.2.1, hl.holdOf h.2.2.1, x, hl.remote k x hx hs, rfl, hs⟩
  | settling r todo => exact ⟨hl.done_mono h.1 fun _ => hl.holdsOf, hpaid h.2⟩
  | released r => exact hl.done_mono h fun _ => id
  | _ => exact h

/-- A write makes rows only of an event whose sales are open, or of an outstanding hold. -/
structure Makes (s d : Store) : Prop where
  hold : ∀ i h, d.holds i = some h → s.holds i = none → s.closed h.event = false
  hosted : ∀ k h, d.hosted k = some h → s.hosted k = none →
    ∃ hd, s.holds h.hold = some hd ∧ hd.status = .outstanding
  sale : ∀ j x, d.sales j = some x → s.sales j = none →
    ∃ hd, s.holds x.hold = some hd ∧ s.closed hd.event = false

theorem NoNew.makes (h : NoNew d d') : Makes d d' where
  hold i x hx hn := by rw [h.holds i hn] at hx; cases hx
  hosted k x hx hn := by rw [h.hosted k hn] at hx; cases hx
  sale j x hx hn := by rw [h.sales j hn] at hx; cases hx

/-- What a call's write is to others: their rows and events are locked. -/
structure Change (s : State) (o : Option Call) (d : Store) : Prop where
  facts : Facts d
  later : Later s.toStore d
  makes : Makes s.toStore d
  rows : ∀ i c, s.rowLock i = some c → some c ≠ o → d.holds i = s.holds i
  closed : ∀ e c, s.alloc e = some c → some c ≠ o → s.closed e = false → d.closed e = false

theorem Change.row (hf : Facts d) (hl : Later s.toStore d) (hm : Makes s.toStore d)
    (hh : ∀ i', i' ≠ i → d.holds i' = s.holds i') (hc : d.closed = s.closed)
    (hr : ∀ c, s.rowLock i = some c → some c = o) : Change s o d where
  facts := hf
  later := hl
  makes := hm
  rows i' c hi' hco := hh i' fun he => hco (hr c (he ▸ hi'))
  closed _ _ _ _ h := by rwa [hc]

theorem Change.same (hf : Facts d) (hl : Later s.toStore d) (hm : Makes s.toStore d)
    (hh : d.holds = s.holds) (hc : d.closed = s.closed) : Change s o d :=
  ⟨hf, hl, hm, fun _ _ _ _ => by rw [hh], fun _ _ _ _ h => by rwa [hc]⟩

theorem Change.refl (hf : Facts s.toStore) : Change s o s.toStore :=
  .same hf (.refl _) (NoNew.refl _).makes rfl rfl

theorem Change.locks (h : Change s o d) (hl : s.Locks c t) (hco : some c ≠ o)
    (hr : ∀ i, s.rowLock i = some c → s'.rowLock i = some c)
    (ha : ∀ e, s.alloc e = some c → s'.alloc e = some c) (hd : s'.toStore = d) :
    s'.Locks c t := by
  subst hd
  have hrow : ∀ {i}, s.HasRow c i → s'.HasRow c i := by
    rintro i ⟨hi, x, hx, ho⟩
    exact ⟨hr i hi, x, (h.rows i c hi hco).trans hx, ho⟩
  have halloc : ∀ {k p p'}, (∀ e, s.alloc e = some c → p e → p' e) → s.HasAlloc c k p →
      s'.HasAlloc c k p' := by
    rintro k p p' hp ⟨x, hd, hx, hhd, he, hpe⟩
    obtain ⟨y, hy, hyx⟩ := h.later.hosted k x hx
    obtain ⟨z, hz, hze⟩ := h.later.event _ hd hhd
    exact ⟨y, z, hy, hyx ▸ hz, hze ▸ ha _ he, hze ▸ hp _ he hpe⟩
  have hopen : ∀ e, s.alloc e = some c → s.closed e = false → s'.closed e = false :=
    fun e he => h.closed e c he hco
  cases t with
  | placing e => exact ha e hl
  | closing e => exact ha e hl
  | onSale e => exact ⟨ha e hl.1, hopen e hl.1 hl.2⟩
  | paying i => exact hrow hl
  | selling i => exact hrow hl
  | told i k status => exact hrow hl
  | created i k old => exact hrow hl
  | giving i => exact hr i hl
  | gave i k status => exact hr i hl
  | clears r i todo => exact hr i hl
  | looked r i todo found => exact hr i hl
  | cancelled r i todo k status => exact hr i hl
  | taking k x after =>
    have hk : s.HasAlloc c k fun _ => True := hl
    exact halloc (fun _ _ => id) hk
  | decided k v after =>
    cases v with
    | takes =>
      have hk : s.HasAlloc c k fun e => s.closed e = false := hl
      exact halloc hopen hk
    | _ => trivial
  | _ => trivial

-- ---------------------------------------------------------------------------
-- The kinds of step
-- ---------------------------------------------------------------------------

structure Next (s s' : State) : Prop where
  inv : Inv s'
  change : ∃ o, Change s o s'.toStore

theorem Inv.write (hi : Inv s) (h : Change s none d) : Next s (s.write d) where
  inv :=
    { facts := h.facts
      knows := fun c => h.later.knows (hi.knows c)
      locks := fun c =>
        h.locks (hi.locks c) (fun he => by cases he) (fun _ => id) (fun _ => id) rfl }
  change := ⟨none, h⟩

theorem Inv.goto (hi : Inv s) (h : Change s (some c) d)
    (hr : ∀ i c', c' ≠ c → s.rowLock i = some c' → s'.rowLock i = some c')
    (ha : ∀ e c', c' ≠ c → s.alloc e = some c' → s'.alloc e = some c')
    (hd : s'.toStore = d) (ht : s'.task = s.task) (hk : d.Knows t) (hl : s'.Locks c t) :
    Next s (s'.goto c t) := by
  refine ⟨⟨hd ▸ h.facts, fun c' => ?_, fun c' => ?_⟩, some c, hd ▸ h⟩
  · simp only [State.goto, Function.update_apply, hd, ht]
    split
    · exact hk
    · exact h.later.knows (hi.knows c')
  · simp only [State.goto, Function.update_apply]
    split
    next he => exact he ▸ hl
    next hne =>
      have hne' : some c' ≠ some c := fun he => hne (Option.some.inj he)
      rw [ht]
      exact h.locks (hi.locks c') hne' (hr · c' hne) (ha · c' hne) hd

theorem Inv.writes (hi : Inv s) (h : Change s (some c) d) (hk : d.Knows t)
    (hl : (s.write d).Locks c t) : Next s ((s.write d).goto c t) :=
  hi.goto h (fun _ _ _ => id) (fun _ _ _ => id) rfl rfl hk hl

theorem Inv.moves (hi : Inv s) (hk : s.Knows t) (hl : s.Locks c t) : Next s (s.goto c t) :=
  hi.goto (.refl hi.facts) (fun _ _ _ => id) (fun _ _ _ => id) rfl rfl hk hl

/-- A transaction commits: what it goes on to has nothing locked. -/
theorem Inv.commit (hi : Inv s) (h : Change s (some c) d) (hk : d.Knows t)
    (hl : ((s.write d).unlock c).Locks c t) : Next s (s.commit c d t) := by
  have hkeep : ∀ {a : Option Call} {c'}, c' ≠ c → a = some c' →
      (if a = some c then none else a) = some c' := by
    rintro a c' hne rfl
    rw [if_neg fun he => hne (Option.some.inj he)]
  exact hi.goto h (fun _ _ hne he => hkeep hne he) (fun _ _ hne he => hkeep hne he) rfl rfl hk hl

theorem Inv.lockRow (hi : Inv s) (hr : ∀ c', s.rowLock i = some c' → c' = c) (hk : s.Knows t)
    (hl : (s.lockRow i c).Locks c t) : Next s ((s.lockRow i c).goto c t) := by
  refine hi.goto (.refl hi.facts) (fun i' c' hne he => ?_) (fun _ _ _ => id) rfl rfl hk hl
  have hne' : i' ≠ i := fun hi' => hne (hr c' (hi' ▸ he))
  simpa [State.lockRow, Function.update_of_ne hne'] using he

theorem Inv.lockEvent (hi : Inv s) (he : s.alloc e = none) (hk : s.Knows t)
    (hl : (s.lockEvent e c).Locks c t) : Next s ((s.lockEvent e c).goto c t) := by
  refine hi.goto (.refl hi.facts) (fun _ _ _ => id) (fun e' c' _ he' => ?_) rfl rfl hk hl
  have hne : e' ≠ e := fun h => by rw [h, he] at he'; cases he'
  simpa [State.lockEvent, Function.update_of_ne hne] using he'

-- ---------------------------------------------------------------------------
-- Single statements
-- ---------------------------------------------------------------------------

theorem change_setHold (hf : Facts s.toStore) {f : Hold → Hold} (ht : Tame f)
    (hr : ∀ c, s.rowLock i = some c → some c = o) : Change s o (s.setHold i f) :=
  .row (hf.setHold ht) (later_setHold _ _ ht) (noNew_setHold _ _ _).makes (fun _ => setHold_ne) rfl
    hr

theorem change_record (hf : Facts s.toStore) (status : HostedCheckoutStatus) :
    Change s o (s.record k status) :=
  .same (hf.record status) (later_record _ _ _) (noNew_record _ _ _).makes rfl rfl

theorem change_setRemote (hf : Facts s.toStore) {x : Remote}
    (hx : ∀ y, s.remote k = some y → y.hold = x.hold ∧ (y.status ≠ .opened → x = y)) :
    Change s o (s.setRemote k x) := by
  refine .same (hf.setRemote fun h hh => ?_) (later_setRemote _ _ hx)
    (NoNew.makes ⟨fun _ => id, fun _ => id, fun _ => id⟩) rfl rfl
  obtain ⟨y, hy, hyh⟩ := hf.remote k h hh
  exact (hx y hy).1.symm.trans hyh

theorem change_cancel (hf : Facts s.toStore) {x : Remote} (hx : s.remote k = some x) :
    Change s o (s.setRemote k x.cancel) := by
  refine change_setRemote hf fun y hy => ?_
  obtain rfl := Option.some.inj (hx.symm.trans hy)
  exact ⟨x.cancel_hold.symm, Remote.cancel_of_ne⟩

theorem Inv.buyer (hi : Inv s) {x y : Remote} (hx : s.remote k = some x)
    (ho : x.status = .opened) (hh : x.hold = y.hold) : Next s (s.write (s.setRemote k y)) := by
  refine hi.write (change_setRemote hi.facts fun z hz => ?_)
  obtain rfl := Option.some.inj (hx.symm.trans hz)
  exact ⟨hh, fun hne => absurd ho hne⟩

theorem Inv.setHold (hi : Inv s) {f : Hold → Hold} (ht : Tame f) (hr : s.rowLock i = none) :
    Next s (s.write (s.setHold i f)) :=
  hi.write (change_setHold hi.facts ht fun c hc => by rw [hr] at hc; cases hc)

theorem Inv.reopens (hi : Inv s) : Next s (s.write (s.reopen e)) := by
  refine hi.write ⟨hi.facts.reopen, later_reopen _ _,
    NoNew.makes ⟨fun _ => id, fun _ => id, fun _ => id⟩, fun _ _ _ _ => rfl, fun e' _ _ _ hc => ?_⟩
  simp only [Store.reopen, Function.update_apply]
  split
  · rfl
  · exact hc

theorem Facts.of_sale (hf : Facts d) {x : Sale} (hx : d.sales j = some x) :
    ∃ h, d.hosted x.hosted = some h ∧ h.hold = x.hold ∧
      ∀ hd, d.holds h.hold = some hd → hd.status ≠ .outstanding := by
  obtain ⟨h, hh, he⟩ := hf.sold j x hx
  exact ⟨h, hh, he, fun hd => hf.spent _ h hd (.inl ⟨j, x, hx, rfl⟩) hh⟩

theorem Inv.issues (hi : Inv s) {x : Sale} (hx : s.sales j = some x)
    (hr : s.rowLock x.hold = none) : Next s (s.write
      ((s.setStatus x.hold .confirmed).sell j { x with status := .issued })) := by
  have ht : Tame fun hd => { hd with status := .confirmed } :=
    tame_setStatus (by simp)
  have hf := hi.facts.setHold (i := x.hold) ht
  obtain ⟨h, hh, he, hs⟩ := hf.of_sale (j := j) hx
  have hl := (later_setHold s.toStore x.hold ht).trans
    (later_sell _ j (x := { x with status := .issued }) fun y hy => by
      obtain rfl := Option.some.inj (hx.symm.trans hy)
      exact ⟨rfl, rfl⟩)
  have hn := (noNew_setHold s.toStore x.hold fun hd => { hd with status := .confirmed }).trans
    (noNew_sell (x := { x with status := .issued }) _ hx)
  exact hi.write (.row (hf.sell hh he hs) hl hn.makes (fun _ => setHold_ne) rfl
    fun c hc => by rw [hr] at hc; cases hc)

theorem Inv.rejects (hi : Inv s) {x : Sale} (hx : s.sales j = some x)
    (hr : s.rowLock x.hold = none) : Next s (s.write
      (((s.setStatusOf x.hold .issuing .released).entitle x.hosted .issuanceRejected).sell j
        { x with status := .rejected })) := by
  have ht : Tame fun hd => if hd.status = .issuing then { hd with status := .released } else hd :=
    tame_setStatusOf (by simp)
  have hf := hi.facts.setHold (i := x.hold) ht
  obtain ⟨h, hh, he, hs⟩ := hf.of_sale (j := j) hx
  have hl := ((later_setHold s.toStore x.hold ht).trans
    (later_entitle _ x.hosted .issuanceRejected)).trans
    (later_sell _ j (x := { x with status := .rejected }) fun y hy => by
      obtain rfl := Option.some.inj (hx.symm.trans hy)
      exact ⟨rfl, rfl⟩)
  have hn := (noNew_setHold s.toStore x.hold fun hd =>
      if hd.status = .issuing then { hd with status := .released } else hd).trans
    (noNew_sell (x := { x with status := .rejected }) _ hx)
  exact hi.write (.row ((hf.entitle _ hh hs).sell hh he hs) hl
    (NoNew.makes ⟨hn.holds, hn.hosted, hn.sales⟩) (fun _ => setHold_ne) rfl
    fun c hc => by rw [hr] at hc; cases hc)

theorem Inv.fails (hi : Inv s) {x : Sale} (hx : s.sales j = some x) :
    Next s (s.write (s.sell j { x with status := .failed })) := by
  obtain ⟨h, hh, he, hs⟩ := hi.facts.of_sale hx
  refine hi.write (.same (hi.facts.sell hh he hs) (later_sell _ j fun y hy => ?_)
    (noNew_sell _ hx).makes rfl rfl)
  obtain rfl := Option.some.inj (hx.symm.trans hy)
  exact ⟨rfl, rfl⟩

theorem Inv.refunded (hi : Inv s) {x : Sale} (hx : s.sales j = some x) :
    Next s (s.write (s.entitle x.hosted .eventCancelled)) := by
  obtain ⟨h, hh, -, hs⟩ := hi.facts.of_sale hx
  exact hi.write (.same (hi.facts.entitle _ hh hs) (later_entitle _ _ _)
    (NoNew.makes ⟨fun _ => id, fun _ => id, fun _ => id⟩) rfl rfl)

-- ---------------------------------------------------------------------------
-- `place`, `pay`, `cancel` and `sweep`
-- ---------------------------------------------------------------------------

theorem Inv.locked (hi : Inv s) (hc : s.task c = t) : s.Locks c t := hc ▸ hi.locks c

theorem Inv.known (hi : Inv s) (hc : s.task c = t) : s.Knows t := hc ▸ hi.knows c

theorem Inv.places (hi : Inv s) {h : Hold} (hc : s.task c = .onSale e) (hh : h.event = e)
    (hn : s.holds i = none) (hr : s.rowLock i = none) : Next s (s.commit c (s.place i h) .ended) := by
  have hl := hi.locked hc
  have hclosed : s.closed h.event = false := hh ▸ hl.2
  have hm : Makes s.toStore (s.place i h) := by
    refine ⟨fun i' h' hi' hnone => ?_, fun k x hk hnone => ?_, fun j x hj hnone => ?_⟩
    · simp only [Store.place, Function.update_apply] at hi'
      split at hi'
      · exact Option.some.inj hi' ▸ hclosed
      · rw [hnone] at hi'
        cases hi'
    · cases hnone.symm.trans hk
    · cases hnone.symm.trans hj
  refine hi.commit (.row (i := i) (hi.facts.place hn) (later_place _ hn hclosed) hm (fun i' hi' => ?_)
    rfl fun c' hc' => by rw [hr] at hc'; cases hc') trivial trivial
  simp [Store.place, Function.update_of_ne hi']

theorem State.HasRow.free (h : s.HasRow c i) : ∀ c', s.rowLock i = some c' → some c' = some c :=
  fun _ hc' => hc'.symm.trans h.1

theorem Inv.creates (hi : Inv s) {x : Remote} {old : Option (HostedId × HostedCheckoutStatus)}
    (hrow : s.HasRow c i) (hk : s.remote k = none) (hx : x.hold = i) :
    Next s ((s.write (s.setRemote k x)).goto c (.created i k old)) := by
  refine hi.writes (change_setRemote hi.facts fun y hy => ?_) ⟨x, by simp [Store.setRemote], hx⟩ hrow
  rw [hk] at hy
  cases hy

theorem replace_hosted (d : Store) (old : Option (HostedId × HostedCheckoutStatus))
    (hk : d.hosted k = none) : (d.replace old).hosted k = none := by
  rcases old with - | ⟨k', status⟩
  · exact hk
  · simp only [Store.replace, Store.record, Function.update_apply]
    split
    next he => rw [← he, hk]; rfl
    next => exact hk

theorem replace_holds (d : Store) (old : Option (HostedId × HostedCheckoutStatus)) :
    (d.replace old).holds = d.holds ∧ (d.replace old).remote = d.remote ∧
      (d.replace old).closed = d.closed := by
  rcases old with - | ⟨k', status⟩ <;> exact ⟨rfl, rfl, rfl⟩

theorem replace_keeps (hf : Facts d) (old : Option (HostedId × HostedCheckoutStatus)) :
    Facts (d.replace old) ∧ Later d (d.replace old) ∧ NoNew d (d.replace old) := by
  rcases old with - | ⟨k', status⟩
  · exact ⟨hf, .refl d, .refl d⟩
  · exact ⟨hf.record status, later_record _ _ _, noNew_record _ _ _⟩

theorem Inv.pays (hi : Inv s) {h : Hosted} {old : Option (HostedId × HostedCheckoutStatus)}
    (hc : s.task c = .created i k old) (hk : s.hosted k = none) (hh : h.hold = i) :
    Next s (s.commit c (((s.replace old).extend i).create k h) .ended) := by
  have hrow : s.HasRow c i := hi.locked hc
  obtain ⟨x, hx, hxi⟩ := hi.known hc
  obtain ⟨hf, hl, hn⟩ := replace_keeps hi.facts old
  obtain ⟨hholds, hremote, hclosed⟩ := replace_holds s.toStore old
  have hf' := hf.setHold (i := i) tame_extend
  have hnew : ((s.replace old).extend i).hosted k = none := replace_hosted _ old hk
  obtain ⟨hd, hhd, -⟩ := hrow.2
  have hsome : (((s.replace old).extend i).holds h.hold).isSome = true := by
    rw [hh, Store.extend, setHold_isSome, hholds, hhd]
    rfl
  have hrem : ((s.replace old).extend i).remote k = some x := by
    rw [← hx, ← hremote]
    rfl
  have hl' := (hl.trans (later_setHold _ i tame_extend)).trans (later_create (h := h) _ hnew)
  have hn' := hn.trans (noNew_extend (s.replace old) i)
  have hm : Makes s.toStore (((s.replace old).extend i).create k h) := by
    refine ⟨hn'.makes.hold, fun k' h' hk' hnone => ?_, hn'.makes.sale⟩
    simp only [Store.create, Function.update_apply] at hk'
    split at hk'
    · obtain rfl := Option.some.inj hk'
      exact hh ▸ hrow.2
    · exact hn'.makes.hosted k' h' hk' hnone
  refine hi.commit (.row (hf'.create hnew hsome hrem (hxi.trans hh.symm)) hl' hm (fun i' hi' => ?_)
    hclosed hrow.free) trivial trivial
  rw [← hholds]
  exact setHold_ne hi'

theorem over_tame (h : Hold) (at_ : Time) :
    Tame fun hd => if hd.status = .outstanding then { hd with status := h.over at_ } else hd :=
  tame_setStatusOf (over_ne h at_)

theorem Inv.gives (hi : Inv s) {h : Hold} (hr : s.rowLock i = some c) :
    Next s (s.commit c (s.giveUp i (h.over at_)) .ended) :=
  hi.commit (change_setHold hi.facts (over_tame h at_) fun _ hc' => hc'.symm.trans hr) trivial
    trivial

theorem change_gaveUp (hf : Facts s.toStore) {remote : HostedCheckoutStatus} {status : HoldStatus}
    (hs : status ≠ .outstanding) (hr : s.rowLock i = some c) :
    Change s (some c) ((s.record k remote).giveUp i status) := by
  have ht : Tame fun hd => if hd.status = .outstanding then { hd with status } else hd :=
    tame_setStatusOf hs
  exact .row ((hf.record remote).setHold ht) ((later_record _ _ _).trans (later_setHold _ i ht))
    ((noNew_record _ _ _).trans (noNew_giveUp (s.record k remote) i status)).makes
    (fun _ => setHold_ne) rfl fun _ hc' => hc'.symm.trans hr

-- ---------------------------------------------------------------------------
-- `reconcile`
-- ---------------------------------------------------------------------------

theorem Store.Settles.paid {a : Release × List HostedId} (h : d.Settles k (some a)) :
    d.Paid k := h.2 k List.mem_cons_self

theorem Inv.retrieves (hi : Inv s) {x : Remote} {after : After}
    (hc : s.task c = .reconciling k after) (hx : s.remote k = some x) :
    Next s (s.goto c (.answered k x after)) := by
  have hk : s.Settles k after := hi.known hc
  refine hi.moves ⟨hk, fun hsome => ?_, x, hx, rfl⟩ trivial
  obtain ⟨a, rfl⟩ := Option.isSome_iff_exists.mp hsome
  obtain ⟨y, -, hy, hp, -⟩ := hk.paid
  obtain rfl := Option.some.inj (hx.symm.trans hy)
  exact hp

/-- The provider answers with the checkout's own hold. -/
theorem Inv.own (hi : Inv s) {x : Remote} {h : Hosted} {after : After}
    (hc : s.task c = .answered k x after) (hk : s.hosted k = some h) : x.hold = h.hold := by
  obtain ⟨-, -, y, hy, hyx⟩ := hi.known hc
  obtain ⟨z, hz, hzh⟩ := hi.facts.remote k h hk
  obtain rfl := Option.some.inj (hy.symm.trans hz)
  exact hyx.symm.trans hzh

theorem Inv.records (hi : Inv s) {x : Remote} {after : After}
    (hc : s.task c = .answered k x after) (hs : x.status ≠ .paid) :
    Next s ((s.write (s.record k x.status)).goto c after.task) := by
  have hk := hi.known hc
  cases after with
  | none => exact hi.writes (change_record hi.facts _) trivial trivial
  | some a => exact absurd (hk.2.1 rfl) hs

theorem Inv.locksTake (hi : Inv s) {x : Remote} {h : Hosted} {hd : Hold} {after : After}
    (hc : s.task c = .answered k x after) (hk : s.hosted k = some h)
    (hh : s.holds h.hold = some hd) (ha : s.alloc hd.event = none) :
    Next s ((s.lockEvent hd.event c).goto c (.taking k x after)) :=
  hi.lockEvent ha (hi.known hc).1 ⟨h, hd, hk, hh, by simp [State.lockEvent], trivial⟩

theorem Inv.decides (hi : Inv s) {x : Remote} {h : Hosted} {hd : Hold} {v : Verdict} {after : After}
    (hc : s.task c = .taking k x after) (hk : s.hosted k = some h) (hh : s.holds h.hold = some hd)
    (hv : Decides at_ s c k x h hd v s') : Next s (s'.goto c (.decided k v after)) := by
  have hs : s.Settles k after := hi.known hc
  have ha : s.alloc hd.event = some c := by
    have hl : s.HasAlloc c k fun _ => True := hi.locked hc
    obtain ⟨h', hd', hk', hh', ha, -⟩ := hl
    obtain rfl := Option.some.inj (hk.symm.trans hk')
    obtain rfl := Option.some.inj (hh.symm.trans hh')
    exact ha
  cases hv with
  | handled hh => exact hi.moves ⟨hs, hh⟩ trivial
  | mismatch => exact hi.moves ⟨hs, trivial⟩ trivial
  | closed => exact hi.moves ⟨hs, trivial⟩ trivial
  | gone => exact hi.moves ⟨hs, trivial⟩ trivial
  | outstanding _ _ hcl => exact hi.moves ⟨hs, trivial⟩ ⟨h, hd, hk, hh, ha, hcl⟩
  | free _ _ hcl => exact hi.moves ⟨hs, trivial⟩ ⟨h, hd, hk, hh, ha, hcl⟩
  | lapses v _ _ hcl _ _ hr hv =>
    have hr' : ∀ c', s.rowLock h.hold = some c' → c' = c := fun c' hc' => by
      rw [hr] at hc'
      cases hc'
    rcases hv with rfl | rfl
    · exact hi.lockRow hr' ⟨hs, trivial⟩ ⟨h, hd, hk, hh, ha, hcl⟩
    · exact hi.lockRow hr' ⟨hs, trivial⟩ trivial

/-- What `takePlace` commits: the checkout is handled, and its hold outstanding no more. -/
theorem Commits.spec {h : Hosted} {hd : Hold} {v : Verdict} (hf : Facts d)
    (hk : d.hosted k = some h) (hh : d.holds h.hold = some hd) (hv : v = .handled → d.Handled k)
    (ht : v = .takes → d.closed hd.event = false) (hc : Commits at_ d k h hd v d') :
    (Facts d' ∧ Later d d' ∧ d'.Handled k) ∧ Makes d d' ∧
      (∀ i, i ≠ h.hold → d'.holds i = d.holds i) ∧ d'.closed = d.closed := by
  have hrec := hf.record (k := k) .paid
  obtain ⟨h', hk', hhh⟩ := record_of hk k .paid
  have hgive : ∀ {status : HoldStatus} (reason : RefundReason), status ≠ .outstanding →
      let d' := ((d.record k .paid).giveUp h.hold status).entitle k reason
      Facts d' ∧ Later d d' ∧ d'.Handled k := by
    intro status reason hs
    have ht : Tame fun hd => if hd.status = .outstanding then { hd with status } else hd :=
      tame_setStatusOf hs
    refine ⟨(hrec.setHold ht).entitle reason hk' fun hd' hd'' => ?_,
      ((later_record d k .paid).trans (later_setHold _ h.hold ht)).trans (later_entitle _ k reason),
      handled_entitle.mpr (.inr rfl)⟩
    exact giveUp_spent hs (hhh ▸ hd'')
  have hn : ∀ f, NoNew d ((d.record k .paid).setHold h.hold f) := fun f =>
    (noNew_record _ _ _).trans (noNew_setHold _ _ f)
  cases hc with
  | handled => exact ⟨⟨hrec, later_record _ _ _, hv rfl⟩, (noNew_record _ _ _).makes,
      fun _ _ => rfl, rfl⟩
  | @refused reason =>
    have hn' := hn fun x => if x.status = .outstanding then { x with status := hd.over at_ } else x
    exact ⟨hgive reason (over_ne hd at_), NoNew.makes ⟨hn'.holds, hn'.hosted, hn'.sales⟩,
      fun _ => setHold_ne, rfl⟩
  | gone =>
    have hn' := hn fun x => if x.status = .outstanding then { x with status := .lapsed } else x
    have hne : HoldStatus.lapsed ≠ .outstanding := by simp
    exact ⟨hgive .placeGone hne,
      NoNew.makes ⟨hn'.holds, hn'.hosted, hn'.sales⟩, fun _ => setHold_ne, rfl⟩
  | @taken j hj =>
    have htame : Tame fun hd => { hd with status := .issuing } := tame_setStatus (by simp)
    have hn' := (hn fun x => { x with status := .issuing }).makes
    refine ⟨⟨(hrec.setHold htame).sell hk' hhh fun hd' hd'' => ?_,
      ((later_record d k .paid).trans (later_setHold _ h.hold htame)).trans
        (later_sell _ j fun y hy => ?_),
      .inl ⟨j, ⟨k, h.hold, .issuing⟩, by simp [Store.sell], rfl⟩⟩,
      ⟨hn'.hold, hn'.hosted, fun j' y hy hnone => ?_⟩, fun _ => setHold_ne, rfl⟩
    · rw [hhh] at hd''
      obtain ⟨x, -, ⟨hne, -⟩ | ⟨-, rfl⟩⟩ := setHold_some hd''
      · exact absurd rfl hne
      · simp
    · have hj' : d.sales j = some y := hy
      rw [hj] at hj'
      cases hj'
    · simp only [Store.sell, Function.update_apply] at hy
      split at hy
      · obtain rfl := Option.some.inj hy
        exact ⟨hd, hh, ht rfl⟩
      · exact hn'.sale j' y hy hnone

/-- No row of `holds` changes, where what is committed writes none. -/
theorem Commits.same {h : Hosted} {hd : Hold} {v : Verdict} (hh : d.holds h.hold = some hd)
    (hw : ¬ v.Writes hd) (hc : Commits at_ d k h hd v d') : d'.holds = d.holds := by
  have hgive : ∀ status, hd.status ≠ .outstanding →
      ((d.record k .paid).giveUp h.hold status).holds = d.holds := by
    intro status ho
    simp [Store.giveUp, Store.setStatusOf, Store.setHold, hh, ho, Store.record]
  cases hc with
  | handled => rfl
  | refused => exact hgive _ hw
  | gone => exact hgive _ hw
  | taken => exact absurd trivial hw

theorem Later.settling (hl : Later d d') (hf : Facts d') {todo : List HostedId}
    (h : d.Settles k (some (r, todo))) (hh : d'.Handled k) : d'.Knows (.settling r todo) := by
  refine ⟨hl.done h.1 (fun i h' hi _ ho hp => ?_) fun k' hk' => ?_,
    fun k' hk' => hl.paid (h.2 k' (List.mem_cons_of_mem _ hk'))⟩
  · obtain ⟨k', hk', hof⟩ := hp
    rcases List.mem_cons.mp hk' with rfl | hk'
    · obtain ⟨x, hx, rfl⟩ := hl.holdOf hof
      exact absurd ho (hf.spent k' x h' hh hx hi)
    · exact ⟨k', hk', hl.holdOf hof⟩
  · rcases List.mem_cons.mp hk' with rfl | hk'
    · obtain ⟨x, -, hx, hp, -⟩ := hl.paid h.paid
      exact .inl ⟨x, hx, by simp [hp], fun _ => hh⟩
    · exact .inr hk'

theorem Inv.commits (hi : Inv s) {h : Hosted} {hd : Hold} {v : Verdict} {after : After}
    (hc : s.task c = .decided k v after) (hk : s.hosted k = some h)
    (hhd : s.holds h.hold = some hd)
    (hr : v.Writes hd → s.rowLock h.hold = none ∨ s.rowLock h.hold = some c)
    (hv : Commits at_ s.toStore k h hd v d) : Next s (s.commit c d after.task) := by
  obtain ⟨hs, hhandled⟩ := hi.known hc
  have hopen : v = .takes → s.closed hd.event = false := by
    rintro rfl
    have hl : s.HasAlloc c k fun e => s.closed e = false := hi.locked hc
    obtain ⟨h', hd', hk', hhd', -, hcl⟩ := hl
    obtain rfl := Option.some.inj (hk.symm.trans hk')
    obtain rfl := Option.some.inj (hhd.symm.trans hhd')
    exact hcl
  have hdone : v = .handled → s.Handled k := by
    rintro rfl
    exact hhandled
  obtain ⟨⟨hf, hl, hh⟩, hm, hrows, hclosed⟩ := hv.spec hi.facts hk hhd hdone hopen
  have hch : Change s (some c) d := by
    by_cases hw : v.Writes hd
    · refine .row hf hl hm hrows hclosed fun c' hc' => ?_
      rcases hr hw with hr | hr
      · rw [hr] at hc'
        cases hc'
      · exact hc'.symm.trans hr
    · exact .same hf hl hm (hv.same hhd hw) hclosed
  refine hi.commit hch ?_ ?_
  · cases after with
    | none => trivial
    | some a => exact hl.settling hf hs hh
  · cases after <;> trivial

-- ---------------------------------------------------------------------------
-- `releaseAll`
-- ---------------------------------------------------------------------------

theorem Inv.closes (hi : Inv s) (hc : s.task c = .closing e) :
    Next s (s.commit c (s.close e) (.closed e (s.reopened e))) := by
  have ha : s.alloc e = some c := hi.locked hc
  refine hi.commit ⟨hi.facts.close, later_close _ _,
    NoNew.makes ⟨fun _ => id, fun _ => id, fun _ => id⟩, fun _ _ _ _ => rfl,
    fun e' c' he' hne hcl => ?_⟩
    ⟨le_rfl, fun _ => by simp [Store.close]⟩ trivial
  have hne' : e' ≠ e := fun he => hne (by rw [← ha, ← he', he])
  simpa [Store.close, Function.update_of_ne hne'] using hcl

theorem Inv.selects (hi : Inv s) {n : ℕ} {todo : List HoldId} (hc : s.task c = .closed e n)
    (ht : ∀ i, i ∈ todo ↔ s.Selects e i) : Next s (s.goto c (.clearing ⟨e, n, [], []⟩ todo)) := by
  obtain ⟨hn, hcl⟩ := hi.known hc
  refine hi.moves ⟨⟨hn, hcl, fun _ i h hi' he ho => ?_, fun _ hk => ?_⟩, fun _ hk => ?_⟩ trivial
  · exact .inl ((ht i).mpr ⟨h, hi', he, .inl ho⟩)
  · cases hk
  · cases hk

theorem Store.Done.mono (h : d.Done r p q) (hp : ∀ i, p i → p' i)
    (hq : ∀ k, q k → d.Settled k ∨ q' k) : d.Done r p' q' :=
  (Later.refl d).done h (fun i _ _ _ _ => hp i) hq

theorem Inv.locksRow (hi : Inv s) {todo : List HoldId} (hc : s.task c = .clearing r (i :: todo))
    (hr : s.rowLock i = none) : Next s ((s.lockRow i c).goto c (.clears r i todo)) := by
  have hk := hi.known hc
  exact hi.lockRow (fun _ hc' => by rw [hr] at hc'; cases hc') hk
    (by simp [State.Locks, State.lockRow])

theorem Inv.looks (hi : Inv s) {todo : List HoldId} {found : Option HostedId}
    (hc : s.task c = .clears r i todo) (hfound : ∀ k, s.Opens i k ↔ found = some k) :
    Next s (s.goto c (.looked { r with seen := found.toList ++ r.seen } i todo found)) := by
  obtain ⟨hd, hp⟩ := hi.known hc
  have hl : s.rowLock i = some c := hi.locked hc
  refine hi.moves ⟨⟨hd.reopened, hd.closed, hd.holds, fun k hk => ?_⟩, hp, fun k hk => ?_⟩ hl
  · rcases List.mem_append.mp hk with hk | hk
    · exact .inr (.inr (Option.mem_toList.mp hk))
    · exact (hd.seen k hk).imp_right .inl
  · obtain ⟨h, hh, he, -⟩ := (hfound k).mpr hk
    exact ⟨h, hh, he⟩

/-- The hold is released, unless it was outstanding no more. -/
theorem Later.clearing (hl : Later d d') {todo : List HoldId}
    (h : d.Done r (fun i' => i' ∈ i :: todo ∨ d.HoldsOf r.paid i') q)
    (hi : ∀ h', d'.holds i = some h' → h'.status ≠ .outstanding)
    (hq : ∀ k, q k → d'.Settled k ∨ k ∈ r.paid) :
    d'.Done r (fun i' => i' ∈ todo ∨ d'.HoldsOf r.paid i') (· ∈ r.paid) := by
  refine hl.done h (fun i' h' hi' _ ho hp => ?_) hq
  rcases hp with hp | hp
  · rcases List.mem_cons.mp hp with rfl | hp
    · exact absurd ho (hi h' hi')
    · exact .inl hp
  · exact .inr (hl.holdsOf hp)

theorem Inv.frees (hi : Inv s) {todo : List HoldId} (hc : s.task c = .looked r i todo none) :
    Next s (s.commit c (s.giveUp i .released) (.clearing r todo)) := by
  obtain ⟨hd, hp, -⟩ := hi.known hc
  have hr : s.rowLock i = some c := hi.locked hc
  have ht : Tame fun hd => if hd.status = .outstanding then { hd with status := .released } else hd :=
    tame_setStatusOf (by simp)
  have hl := later_setHold s.toStore i ht
  refine hi.commit (change_setHold hi.facts ht fun _ hc' => hc'.symm.trans hr)
    ⟨hl.clearing hd (fun _ => giveUp_spent (by simp)) fun k hk => ?_, fun k hk => hl.paid (hp k hk)⟩
    trivial
  exact .inr (hk.resolve_right fun he => by cases he)

theorem Inv.asks (hi : Inv s) {x : Remote} {todo : List HoldId}
    (hc : s.task c = .looked r i todo (some k)) (hx : s.remote k = some x) :
    Next s ((s.write (s.setRemote k x.cancel)).goto c (.cancelled r i todo k x.cancel.status)) := by
  obtain ⟨hd, hp, hof⟩ := hi.known hc
  have hr : s.rowLock i = some c := hi.locked hc
  have hch := change_cancel (o := some c) hi.facts hx
  refine hi.writes hch ⟨hch.later.done hd (fun i' _ _ _ _ hi' => ?_) fun k' hk' => ?_,
    fun k' hk' => hch.later.paid (hp k' hk'), hch.later.holdOf (hof k rfl), x.cancel,
    by simp [Store.setRemote], rfl, x.cancel_ne⟩ hr
  · exact hi'.imp_right hch.later.holdsOf
  · exact .inr (hk'.imp_right Option.some.inj)

theorem Inv.remembers (hi : Inv s) {todo : List HoldId}
    (hc : s.task c = .cancelled r i todo k .paid) :
    Next s (s.commit c s.toStore (.clearing { r with paid := r.paid ++ [k] } todo)) := by
  obtain ⟨hd, hp, hof, x, hx, hs, -⟩ := hi.known hc
  have hd' : s.Done r (fun i' => i' ∈ todo ∨ s.HoldsOf (r.paid ++ [k]) i')
      (· ∈ r.paid ++ [k]) := by
    refine hd.mono (fun i' hi' => ?_) fun k' hk' => .inr ?_
    · rcases hi' with hi' | ⟨k', hk', hof'⟩
      · rcases List.mem_cons.mp hi' with rfl | hi'
        · exact .inr ⟨k, by simp, hof⟩
        · exact .inl hi'
      · exact .inr ⟨k', by simp [hk'], hof'⟩
    · rcases hk' with hk' | rfl <;> simp [*]
  refine hi.commit (.refl hi.facts)
    ⟨⟨hd'.reopened, hd'.closed, hd'.holds, hd'.seen⟩, fun k' hk' => ?_⟩ trivial
  rcases List.mem_append.mp hk' with hk' | hk'
  · exact hp k' hk'
  · obtain rfl := List.mem_singleton.mp hk'
    obtain ⟨h, hh, -⟩ := hof
    exact ⟨x, h, hx, hs, hh⟩

theorem Inv.clears (hi : Inv s) {todo : List HoldId} {status : HostedCheckoutStatus}
    (hc : s.task c = .cancelled r i todo k status) (hs : status ≠ .paid) :
    Next s (s.commit c ((s.record k status).giveUp i .released) (.clearing r todo)) := by
  obtain ⟨hd, hp, -, x, hx, rfl, hne⟩ := hi.known hc
  have hr : s.rowLock i = some c := hi.locked hc
  have hch : Change s (some c) ((s.record k x.status).giveUp i .released) :=
    change_gaveUp hi.facts (by simp) hr
  refine hi.commit hch ⟨hch.later.clearing hd (fun _ => giveUp_spent (by simp)) fun k' hk' => ?_,
    fun k' hk' => hch.later.paid (hp k' hk')⟩ trivial
  rcases hk' with hk' | rfl
  · exact .inr hk'
  · exact .inl ⟨x, hx, hne, fun he => absurd he hs⟩

theorem Inv.settles (hi : Inv s) (hc : s.task c = .clearing r []) :
    Next s (s.goto c (.settling r r.paid)) := by
  obtain ⟨hd, hp⟩ := hi.known hc
  refine hi.moves ⟨hd.mono (fun i hi' => ?_) fun _ => .inr, hp⟩ trivial
  exact hi'.resolve_left (by simp)

theorem Inv.returns (hi : Inv s) (hc : s.task c = .settling r []) :
    Next s (s.goto c (.released r)) := by
  obtain ⟨hd, -⟩ := hi.known hc
  have hp : ∀ i, s.HoldsOf [] i → False := by
    rintro i ⟨k, hk, -⟩
    cases hk
  exact hi.moves (t := .released r) (hd.mono hp fun k hk => by cases hk) trivial

-- ---------------------------------------------------------------------------
-- Runs
-- ---------------------------------------------------------------------------

theorem State.Initial.inv (h : s.Initial) : Inv s where
  facts := ⟨fun k x hk => by simp [h.hosted] at hk, fun k x hk => by simp [h.hosted] at hk,
    fun j x hj => by simp [h.sales] at hj, fun k hk => by simp [h.refunds] at hk,
    fun k x hd _ hk => by simp [h.hosted] at hk⟩
  knows c := by rw [h.task]; trivial
  locks c := by rw [h.task]; trivial

theorem Inv.step (hi : Inv s) (hs : Step at_ s s') : Next s s' := by
  cases hs with
  | buyerPays charge hx ho => exact hi.buyer hx ho rfl
  | expires hx ho => exact hi.buyer hx ho rfl
  | lapses _ hr => exact hi.setHold (tame_setStatusOf (by simp)) hr
  | givesUp _ hr => exact hi.setHold (over_tame _ at_) hr
  | extended _ hr => exact hi.setHold tame_extend hr
  | reopens => exact hi.reopens
  | issues hx _ hr => exact hi.issues hx hr
  | rejects hx _ hr => exact hi.rejects hx hr
  | fails hx => exact hi.fails hx
  | refunded hx => exact hi.refunded hx
  | locksPlace e _ ha => exact hi.lockEvent ha trivial (by simp [State.Locks, State.lockEvent])
  | readsOnSale hc hcl => exact hi.moves trivial ⟨hi.locked hc, hcl⟩
  | places price hc hn hr => exact hi.places hc rfl hn hr
  | locksPay _ hh hr ho =>
    exact hi.lockRow (fun _ hc' => by rw [hr] at hc'; cases hc') trivial
      ⟨by simp [State.lockRow], _, hh, ho⟩
  | sells hc =>
    have hrow := hi.locked hc
    exact hi.moves trivial hrow
  | retrievesOpen hc =>
    have hrow := hi.locked hc
    exact hi.moves trivial hrow
  | payReturns => exact hi.commit (.refl hi.facts) trivial trivial
  | findsPaid => exact hi.commit (change_record hi.facts _) trivial trivial
  | creates hc _ _ hk =>
    have hrow : s.HasRow _ _ := hi.locked hc
    exact hi.creates hrow hk rfl
  | replaces hc _ _ _ hk =>
    have hrow : s.HasRow _ _ := hi.locked hc
    exact hi.creates hrow hk rfl
  | pays hc _ hk => exact hi.pays hc hk rfl
  | locksCancel _ _ hr =>
    exact hi.lockRow (fun _ hc' => by rw [hr] at hc'; cases hc') trivial
      (by simp [State.Locks, State.lockRow])
  | gives hc => exact hi.gives (hi.locked hc)
  | cancelsOpen hc _ hx =>
    have hr := hi.locked hc
    exact hi.writes (change_cancel hi.facts hx) (Remote.cancel_ne _) hr
  | gavePaid => exact hi.commit (.refl hi.facts) trivial trivial
  | gaveUp hc =>
    exact hi.commit (change_gaveUp hi.facts (over_ne _ at_) (hi.locked hc)) trivial trivial
  | sweeps => exact hi.moves trivial trivial
  | sweepCancels _ hx =>
    exact hi.writes (change_cancel hi.facts hx) (Remote.cancel_ne _) trivial
  | sweptPaid => exact hi.moves trivial trivial
  | sweptRecords => exact hi.writes (change_record hi.facts _) trivial trivial
  | prompted => exact hi.moves trivial trivial
  | retrieves hc hx => exact hi.retrieves hc hx
  | otherHold hc hk hne => exact absurd (hi.own hc hk) hne
  | records hc hs => exact hi.records hc hs
  | locksTake hc _ hk _ hh ha => exact hi.locksTake hc hk hh ha
  | decides hc hk hh hv => exact hi.decides hc hk hh hv
  | commits hc hk hh hr hv => exact hi.commits hc hk hh hr hv
  | locksRelease e _ ha => exact hi.lockEvent ha trivial (by simp [State.Locks, State.lockEvent])
  | closes hc => exact hi.closes hc
  | selects todo hc ht => exact hi.selects hc ht
  | locksRow hc hr => exact hi.locksRow hc hr
  | looks found hc hf => exact hi.looks hc hf
  | frees hc => exact hi.frees hc
  | asks hc hx => exact hi.asks hc hx
  | remembers hc => exact hi.remembers hc
  | clears hc hs => exact hi.clears hc hs
  | settles hc => exact hi.settles hc
  | reconciles hc =>
    have hk := hi.known hc
    exact hi.moves hk trivial
  | returns hc => exact hi.returns hc
  | stops => exact hi.commit (.refl hi.facts) trivial trivial

theorem Inv.steps (hi : Inv s) (hs : Steps s s') : Inv s' := by
  induction hs with
  | refl => exact hi
  | step _ h ih => exact (ih.step h).inv

theorem Inv.later (hi : Inv s) (hs : Steps s s') : Later s.toStore s'.toStore := by
  induction hs with
  | refl => exact .refl _
  | step hs h ih =>
    obtain ⟨o, hc⟩ := ((hi.steps hs).step h).change
    exact ih.trans hc.later

-- ---------------------------------------------------------------------------
-- What `releaseAll` guarantees
-- ---------------------------------------------------------------------------

structure Store.Released (d : Store) (r : Release) : Prop where
  holds : ∀ i h, d.holds i = some h → h.event = r.event → h.status ≠ .outstanding
  seen : ∀ k ∈ r.seen, d.Settled k

theorem Change.hold (h : Change s o d) (hc : s.closed e = true) {x : Hold}
    (hx : d.holds i = some x) (he : x.event = e) : ∃ y, s.holds i = some y ∧ y.event = e := by
  cases hy : s.holds i with
  | none =>
    have := h.makes.hold i x hx hy
    rw [he, hc] at this
    cases this
  | some y =>
    obtain ⟨z, hz, hze⟩ := h.later.event i y hy
    obtain rfl := Option.some.inj (hx.symm.trans hz)
    exact ⟨y, rfl, hze.symm.trans he⟩

theorem Store.Done.released (h : d.Done r (fun _ => False) (fun _ => False))
    (hr : d.reopened r.event = r.reopened) : d.Released r where
  holds i x hx he ho := h.holds hr i x hx he ho
  seen k hk := (h.seen k hk).resolve_right id

def State.start : State where
  holds _ := none
  hosted _ := none
  sales _ := none
  refunds _ := none
  remote _ := none
  closed _ := false
  reopened _ := 0
  alloc _ := none
  rowLock _ := none
  task _ := .idle

theorem State.start_initial : State.start.Initial :=
  ⟨fun _ => rfl, fun _ => rfl, fun _ => rfl, fun _ => rfl, fun _ => rfl, fun _ => rfl, fun _ => rfl⟩

end Kippu.Releasing
