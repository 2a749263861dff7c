import Kippu.Conc.System
import Mathlib.Logic.Relation

/-!
# Rely and guarantee

A `Protocol` says what the processes promise each other: an invariant of the
shared data, the changes a process may make while it holds some locks, and the
changes that happen outside. `wp` is the weakest precondition of a program run
among processes that keep the protocol: after each of its operations the others
may have changed whatever the locks it holds allow.

A system whose every request meets its weakest precondition keeps the invariant
in every state it reaches, and every request that ends meets its postcondition.
-/

namespace Conc

variable {Db Env Key Err : Type} {Call : Type → Type}

/-- What processes promise each other about the data they share. -/
structure Protocol (Db Env Key : Type) (Call : Type → Type) where
  Inv : Shared Db Env → Prop
  /-- What a process that holds some locks may do in one step. -/
  Act : Pid → List Key → Shared Db Env → Shared Db Env → Prop
  /-- What may happen outside in one step. -/
  Move : Shared Db Env → Shared Db Env → Prop
  /-- Whether nothing in the data is a process's own yet. -/
  Fresh : Pid → Shared Db Env → Prop
  /-- The steps considered: an operation of a process, and how it ended. -/
  Allow : Pid → Local Db Key → Shared Db Env → {α : Type} → Op Db Key Call α → Outcome → Prop
  fresh_act : Inv d → Inv d' → Act q K d d' → p ≠ q → Fresh p d → Fresh p d'
  fresh_move : Inv d → Inv d' → Move d d' → Fresh p d → Fresh p d'

namespace Protocol

variable (G : Protocol Db Env Key Call)

/-- A step another process, or the outside, takes while `p` holds `K`. -/
inductive Other (p : Pid) (K : List Key) (d d' : Shared Db Env) : Prop
  | act (q : Pid) (K' : List Key) : q ≠ p → (∀ k ∈ K, k ∉ K') → G.Act q K' d d' → Other p K d d'
  | move : G.Move d d' → Other p K d d'

/-- What the others may have done while `p` held `K`. -/
def Rely (p : Pid) (K : List Key) : Shared Db Env → Shared Db Env → Prop :=
  Relation.ReflTransGen fun d d' => G.Inv d ∧ G.Inv d' ∧ G.Other p K d d'

def Guar (p : Pid) (K : List Key) (d d' : Shared Db Env) : Prop :=
  (d' = d ∨ G.Act p K d d') ∧ G.Inv d'

variable {G}

theorem Rely.refl : G.Rely p K d d := Relation.ReflTransGen.refl

theorem Rely.keep {P : Shared Db Env → Prop}
    (hstep : ∀ d d', G.Inv d → G.Inv d' → G.Other p K d d' → P d → P d') (h : G.Rely p K d d')
    (hd : P d) : P d' := by
  induction h with
  | refl => exact hd
  | tail _ hs ih => exact hstep _ _ hs.1 hs.2.1 hs.2.2 ih

end Protocol

-- ---------------------------------------------------------------------------
-- Weakest preconditions
-- ---------------------------------------------------------------------------

variable [DecidableEq Key] [Broken Err] [Outside Env Err Call]
variable (G : Protocol Db Env Key Call)

/-- The weakest precondition of a program of process `p` for a condition on how it
ends. -/
def wp (p : Pid) : Prog Db Key Call Err α →
    (Except Err α → Local Db Key → Shared Db Env → Prop) → Local Db Key → Shared Db Env → Prop
  | .done r, Q, l, d => Q r l d
  | .call op next, Q, l, d => ∀ o l' d' r, G.Allow p l d op o → op.act p l d o = some (l', d', r) →
      G.Guar p l.keys d d' ∧ ∀ d'', G.Rely p l'.keys d' d'' → G.Inv d'' → wp p (next r) Q l' d''

theorem wp_andThen {m : Prog Db Key Call Err α} {f : Except Err α → Prog Db Key Call Err β} :
    wp G p (m.andThen f) Q l d ↔ wp G p m (fun r => wp G p (f r) Q) l d := by
  induction m generalizing l d with
  | done r => rfl
  | call op next ih => simp only [Prog.andThen, wp, ih]

theorem wp_mono {m : Prog Db Key Call Err α} (h : ∀ r l d, Q r l d → Q' r l d)
    (hm : wp G p m Q l d) : wp G p m Q' l d := by
  induction m generalizing l d with
  | done r => exact h _ _ _ hm
  | call op next ih =>
    intro o l' d' r hal ha
    obtain ⟨hg, hn⟩ := hm o l' d' r hal ha
    exact ⟨hg, fun d'' hr hi => ih r (hn d'' hr hi)⟩

-- ---------------------------------------------------------------------------
-- Soundness
-- ---------------------------------------------------------------------------

def Op.wants : Op Db Key Call α → Option Key
  | .lock k => some k
  | _ => none

/-- An operation takes no lock but the one it wants, and that only when it succeeds. -/
theorem Op.act_keys {op : Op Db Key Call α} {d d' : Shared Db Env} {r : Except Err α}
    (h : op.act p l d o = some (l', d', r)) (hk : k ∈ l'.keys) :
    k ∈ l.keys ∨ op.wants = some k ∧ o = .ok := by
  cases op with
  | connect =>
    cases o <;> simp only [Op.act, Option.some.injEq, Prod.mk.injEq, reduceCtorEq] at h
    all_goals
      obtain ⟨rfl, rfl, rfl⟩ := h
      exact .inl hk
  | release =>
    cases o <;> simp only [Op.act, Option.some.injEq, Prod.mk.injEq, reduceCtorEq] at h
    obtain ⟨rfl, rfl, rfl⟩ := h
    cases l with
    | nil => exact .inl hk
    | cons s l => exact .inl (List.mem_append_right _ hk)
  | begin =>
    cases o <;> simp only [Op.act, Option.some.injEq, Prod.mk.injEq, reduceCtorEq] at h
    · split at h <;> simp only [Option.some.injEq, Prod.mk.injEq, reduceCtorEq] at h
      obtain ⟨rfl, rfl, rfl⟩ := h
      exact .inl hk
    · obtain ⟨rfl, rfl, rfl⟩ := h
      exact .inl hk
  | commit =>
    cases o <;> simp only [Op.act, Option.some.injEq, Prod.mk.injEq, reduceCtorEq] at h
    all_goals
      obtain ⟨rfl, rfl, rfl⟩ := h
      exact .inl (l.keys_endTx hk)
  | rollback =>
    cases o <;> simp only [Op.act, Option.some.injEq, Prod.mk.injEq, reduceCtorEq] at h
    all_goals
      obtain ⟨rfl, rfl, rfl⟩ := h
      exact .inl (l.keys_endTx hk)
  | lock k' =>
    cases o <;> simp only [Op.act, Option.some.injEq, Prod.mk.injEq, reduceCtorEq] at h
    · split at h
      · simp only [Option.some.injEq, Prod.mk.injEq] at h
        obtain ⟨rfl, rfl, rfl⟩ := h
        exact .inl hk
      · split at h <;> simp only [Option.some.injEq, Prod.mk.injEq, reduceCtorEq] at h
        obtain ⟨rfl, rfl, rfl⟩ := h
        exact (l.keys_take hk).imp_right fun h => ⟨by simp [Op.wants, h], rfl⟩
    · obtain ⟨rfl, rfl, rfl⟩ := h
      exact .inl hk
  | scan ids =>
    cases o <;> simp only [Op.act, Option.some.injEq, Prod.mk.injEq, reduceCtorEq] at h
    · obtain ⟨rfl, rfl, rfl⟩ := h
      exact .inl hk
    · split at h <;> simp only [Option.some.injEq, Prod.mk.injEq, reduceCtorEq] at h
      obtain ⟨rfl, rfl, rfl⟩ := h
      exact .inl hk
  | write u =>
    cases o <;> simp only [Op.act, Option.some.injEq, Prod.mk.injEq, reduceCtorEq] at h
    · split at h <;> simp only [Option.some.injEq, Prod.mk.injEq, reduceCtorEq] at h
      obtain ⟨rfl, rfl, rfl⟩ := h
      exact .inl hk
    · obtain ⟨rfl, rfl, rfl⟩ := h
      exact .inl hk
  | ext call =>
    cases o <;> simp only [Op.act, Option.some.injEq, Prod.mk.injEq, reduceCtorEq] at h
    obtain ⟨rfl, rfl, rfl⟩ := h
    exact .inl hk

variable {S : Sys Db Env Key Call Err} {G}

/-- A system whose requests meet their weakest preconditions, whose outside keeps the
protocol, and whose steps of kind `A` are ones the protocol considers. -/
structure Sound (G : Protocol Db Env Key Call) (A : Config S → Label S → Prop)
    (Q : Pid → S.Req → Except Err S.Ans → Shared Db Env → Prop) : Prop where
  spec : ∀ p r d, G.Inv d → G.Fresh p d →
    wp G p (S.program r) (fun a _ d' => Q p r a d') [] d
  occur : ∀ (c : Config S) e d, A c (.occur e) → G.Inv c.world.toShared →
    S.occur e c.world.toShared = some d → G.Move c.world.toShared d ∧ G.Inv d
  allow : ∀ (c : Config S) p o {β : Type} (op : Op Db Key Call β) next, A c (.step p o) →
    c.procs p = some (.call op next) → G.Allow p (c.world.sessions p) c.world.toShared op o

/-- What holds in every state reached: the invariant, locks held by one process each, and
what is left of each program meets its weakest precondition whatever the others do. -/
structure Good (G : Protocol Db Env Key Call)
    (Q : Pid → S.Req → Except Err S.Ans → Shared Db Env → Prop) (c : Config S) : Prop where
  inv : G.Inv c.world.toShared
  idle : ∀ p, c.world.next ≤ p →
    c.world.sessions p = [] ∧ c.procs p = none ∧ G.Fresh p c.world.toShared
  apart : ∀ p q k, p ≠ q → k ∈ (c.world.sessions p).keys → k ∉ (c.world.sessions q).keys
  progs : ∀ p m, c.procs p = some m → ∃ r, c.reqs p = some r ∧
    ∀ d, G.Rely p (c.world.sessions p).keys c.world.toShared d → G.Inv d →
      wp G p m (fun a _ d' => Q p r a d') (c.world.sessions p) d

variable {A : Config S → Label S → Prop}
variable {Q : Pid → S.Req → Except Err S.Ans → Shared Db Env → Prop}

theorem Initial.good (h : Initial G.Inv c) (hfresh : ∀ p, G.Fresh p c.world.toShared) :
    Good (S := S) G Q c where
  inv := h.data
  idle p _ := ⟨h.sessions p, h.procs p, hfresh p⟩
  apart p _ k _ hk := by simp [h.sessions p, Local.keys] at hk
  progs p m hm := by simp [h.procs p] at hm

theorem Good.free (h : Good G Q c) (hw : c.world.taken p k = false) (hq : q ≠ p) :
    k ∉ (c.world.sessions q).keys := by
  intro hk
  by_cases hn : c.world.next ≤ q
  · simp [(h.idle q hn).1, Local.keys] at hk
  · have := List.any_eq_false.mp hw q (List.mem_range.mpr (not_le.mp hn))
    simp [hq, hk] at this

theorem Good.start (hs : Sound G A Q) (h : Good G Q c) (he : exec c (.start r) = some c') :
    Good G Q c' := by
  simp only [exec, Option.some.injEq] at he
  subst he
  obtain ⟨hses, -, hfresh⟩ := h.idle _ le_rfl
  refine ⟨h.inv, fun p hp => ?_, h.apart, fun p m hm => ?_⟩
  · obtain ⟨h1, h2, h3⟩ := h.idle p (Nat.le_of_succ_le hp)
    exact ⟨h1, by simp [Function.update, Nat.ne_of_gt (Nat.lt_of_succ_le hp), h2], h3⟩
  · by_cases hp : p = c.world.next
    · subst hp
      simp only [Function.update_self, Option.some.injEq] at hm ⊢
      subst hm
      refine ⟨r, rfl, fun d hr hi => ?_⟩
      rw [hses]
      refine hs.spec _ r d hi (hr.keep (fun d d' hi hi' ho hf => ?_) hfresh)
      cases ho with
      | act q K hq _ ha => exact G.fresh_act hi hi' ha (Ne.symm hq) hf
      | move hm => exact G.fresh_move hi hi' hm hf
    · simp only [Function.update_of_ne hp] at hm ⊢
      exact h.progs p m hm

theorem Good.crash (h : Good G Q c) (he : exec c (.crash p) = some c') : Good G Q c' := by
  simp only [exec, Option.some.injEq] at he
  subst he
  have hsub : ∀ q, ((Function.update c.world.sessions p []) q).keys ⊆
      (c.world.sessions q).keys := by
    intro q k hk
    by_cases hq : q = p
    · subst hq
      simp [Local.keys] at hk
    · rwa [Function.update_of_ne hq] at hk
  refine ⟨h.inv, fun q hq => ?_, fun a b k hab ha hb => ?_, fun q m hm => ?_⟩
  · obtain ⟨h1, h2, h3⟩ := h.idle q hq
    refine ⟨?_, ?_, h3⟩ <;> by_cases hqp : q = p <;> simp [World.after, hqp, h1, h2]
  · exact h.apart a b k hab (hsub a ha) (hsub b hb)
  · by_cases hqp : q = p
    · subst hqp
      simp at hm
    · simp only [Function.update_of_ne hqp] at hm
      simp only [World.after, Function.update_of_ne hqp]
      exact h.progs q m hm

theorem Good.occur (hs : Sound G A Q) (h : Good G Q c) (ha : A c (.occur e))
    (he : exec c (.occur e) = some c') : Good G Q c' := by
  simp only [exec, Option.map_eq_some_iff] at he
  obtain ⟨d, hd, rfl⟩ := he
  obtain ⟨hm, hi⟩ := hs.occur c e d ha h.inv hd
  refine ⟨hi, fun p hp => ?_, h.apart, fun p m hp => ?_⟩
  · obtain ⟨h1, h2, h3⟩ := h.idle p hp
    exact ⟨h1, h2, G.fresh_move h.inv hi hm h3⟩
  · obtain ⟨r, hr, hw⟩ := h.progs p m hp
    exact ⟨r, hr, fun d' hrely hi' =>
      hw d' (.head ⟨h.inv, hi, .move hm⟩ hrely) hi'⟩

theorem Good.step (hs : Sound G A Q) (h : Good G Q c) (ha : A c (.step p o))
    (he : exec c (.step p o) = some c') : Good G Q c' := by
  simp only [exec] at he
  split at he
  case h_2 => cases he
  case h_1 op next hp =>
    simp only [Option.map_eq_some_iff, Op.run] at he
    obtain ⟨⟨w, r⟩, hrun, rfl⟩ := he
    split at hrun
    case isFalse => cases hrun
    case isTrue hen =>
      simp only [Option.map_eq_some_iff, Prod.mk.injEq] at hrun
      obtain ⟨⟨l', d', r'⟩, hact, rfl, rfl⟩ := hrun
      obtain ⟨req, hreq, hwp⟩ := h.progs p _ hp
      obtain ⟨⟨hg, hi'⟩, hnext⟩ :=
        hwp _ .refl h.inv o l' d' r' (hs.allow c p o op next ha hp) hact
      have hlt : p < c.world.next := by
        by_contra hge
        simp [(h.idle p (not_lt.mp hge)).2.1] at hp
      -- What `p` did is, to the others, a step of the protocol while they hold their locks.
      have hother : ∀ q, q ≠ p → ∀ d'', G.Rely q (c.world.sessions q).keys d' d'' →
          G.Rely q (c.world.sessions q).keys c.world.toShared d'' := by
        intro q hq d'' hr
        rcases hg with rfl | hg
        · exact hr
        · exact .head ⟨h.inv, hi', .act p _ hq.symm
            (fun k hk hk' => h.apart q p k hq hk hk') hg⟩ hr
      have hkeys : ∀ k ∈ l'.keys, ∀ q, q ≠ p → k ∉ (c.world.sessions q).keys := by
        intro k hk q hq
        rcases op.act_keys hact hk with hold | ⟨hwant, rfl⟩
        · exact h.apart p q k hq.symm hold
        · refine h.free ?_ hq
          cases op <;> simp only [Op.wants, Option.some.injEq, reduceCtorEq] at hwant
          all_goals
            subst hwant
            simpa [Op.enabled] using hen
      refine ⟨hi', fun q hq => ?_, fun a b k hab hka hkb => ?_, fun q m hm => ?_⟩
      · obtain ⟨h1, h2, h3⟩ := h.idle q hq
        have hqp : q ≠ p := Nat.ne_of_gt (lt_of_lt_of_le hlt hq)
        refine ⟨by simp [World.after, hqp, h1], by simp [hqp, h2], ?_⟩
        rcases hg with rfl | hg
        · exact h3
        · exact G.fresh_act h.inv hi' hg hqp h3
      · simp only [World.after] at hka hkb
        by_cases hap : a = p
        · subst hap
          simp only [Function.update_self] at hka
          rw [Function.update_of_ne hab.symm] at hkb
          exact hkeys k hka b hab.symm hkb
        · rw [Function.update_of_ne hap] at hka
          by_cases hbp : b = p
          · subst hbp
            simp only [Function.update_self] at hkb
            exact hkeys k hkb a hap hka
          · rw [Function.update_of_ne hbp] at hkb
            exact h.apart a b k hab hka hkb
      · by_cases hqp : q = p
        · subst hqp
          simp only [Function.update_self, Option.some.injEq] at hm
          subst hm
          refine ⟨req, hreq, fun d'' hr hi'' => ?_⟩
          simp only [World.after, Function.update_self] at hr ⊢
          exact hnext d'' hr hi''
        · simp only [Function.update_of_ne hqp] at hm
          obtain ⟨r, hr, hw⟩ := h.progs q m hm
          refine ⟨r, hr, fun d'' hrely hi'' => ?_⟩
          simp only [World.after, Function.update_of_ne hqp] at hrely ⊢
          exact hw d'' (hother q hqp d'' hrely) hi''

/-- The protocol holds in every state reached by steps of the kind considered. -/
theorem Good.steps (hs : Sound G A Q) (h : Good G Q c) (hst : Steps A c c') : Good G Q c' := by
  induction hst with
  | refl => exact h
  | @step _ a _ _ ha he ih =>
    cases a with
    | start r => exact ih.start hs he
    | step p o => exact ih.step hs ha he
    | crash p => exact ih.crash he
    | occur e => exact ih.occur hs ha he

end Conc
