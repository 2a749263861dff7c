import Kippu.Conc.Rely

/-!
# Rules for programs and their transactions

`Within` reads `wp` for a program run inside a transaction, which adds to the locks held
and to the effect that will be committed. The statements that open and end a session, and
its transactions, have a rule each.
-/

namespace Conc

variable {Db Env Key Err : Type} {Call : Type → Type}
variable [DecidableEq Key] [Broken Err] [Outside Env Err Call]

/-- A program run inside a transaction ends with `Q`, of how it ended, the locks of the
session and the effect to commit. -/
def Within (G : Protocol Db Env Key Call) (p : Pid) (l : Local Db Key)
    (m : Prog Db Key Call Err α)
    (Q : Except Err α → List Key → (Db → Db) → Shared Db Env → Prop)
    (ks : List Key) (u : Db → Db) (d : Shared Db Env) : Prop :=
  G.Inv d → wp G p m (fun r l' d' => ∃ ks' u', l' = ⟨ks', some u'⟩ :: l ∧
    G.Inv d' ∧ Q r ks' u' d') (⟨ks, some u⟩ :: l) d

def okOnly (Q : α → List Key → (Db → Db) → Shared Db Env → Prop) :
    Except Err α → List Key → (Db → Db) → Shared Db Env → Prop
  | .ok a => Q a
  | .error _ => fun _ _ _ => True

-- ---------------------------------------------------------------------------
-- Inside a transaction
-- ---------------------------------------------------------------------------

variable {G : Protocol Db Env Key Call} {p : Pid} {l : Local Db Key}

namespace Within

variable {m : Prog Db Key Call Err α}
variable {Q Q' : Except Err α → List Key → (Db → Db) → Shared Db Env → Prop}
variable {Q₁ : Except Err β → List Key → (Db → Db) → Shared Db Env → Prop}

theorem pure (h : Q (.ok a) ks u d) : Within G p l (Pure.pure a) Q ks u d :=
  fun hi => ⟨ks, u, rfl, hi, h⟩

theorem raise (h : Q (.error e) ks u d) : Within G p l (Prog.raise e) Q ks u d :=
  fun hi => ⟨ks, u, rfl, hi, h⟩

theorem mono (h : Within G p l m Q ks u d) (hQ : ∀ r ks u d, Q r ks u d → Q' r ks u d) :
    Within G p l m Q' ks u d := by
  intro hi
  refine wp_mono G ?_ (h hi)
  rintro r _ d' ⟨ks', u', rfl, hi', hq⟩
  exact ⟨ks', u', rfl, hi', hQ _ _ _ _ hq⟩

theorem andThen {f : Except Err α → Prog Db Key Call Err β}
    (h : Within G p l m (fun r => Within G p l (f r) Q₁) ks u d) :
    Within G p l (m.andThen f) Q₁ ks u d := by
  intro hi
  rw [wp_andThen]
  refine wp_mono G ?_ (h hi)
  rintro r _ d' ⟨ks', u', rfl, hi', hw⟩
  exact hw hi'

theorem bind {f : α → Prog Db Key Call Err β}
    (h : Within G p l m (fun r => match r with
      | .ok a => Within G p l (f a) Q₁
      | .error e => Q₁ (.error e)) ks u d) :
    Within G p l (m >>= f) Q₁ ks u d := by
  refine andThen (m := m) (h.mono ?_)
  rintro (e | a) ks' u' d' hw
  · exact Within.raise (α := β) hw
  · exact hw

theorem perform {op : Op Db Key Call α}
    (h : ∀ o l' d' r, op.act p (⟨ks, some u⟩ :: l) d o = some (l', d', r) →
      d' = d ∧ ∃ ks' u', l' = ⟨ks', some u'⟩ :: l ∧
        ∀ d'', G.Rely p (ks' ++ l.keys) d d'' → G.Inv d'' → Q r ks' u' d'') :
    Within G p l (Prog.perform op) Q ks u d := by
  intro hi o l' d' r _ ha
  obtain ⟨rfl, ks', u', rfl, hq⟩ := h o l' d' r ha
  exact ⟨⟨.inl rfl, hi⟩, fun d'' hr hi' => ⟨ks', u', rfl, hi', hq d'' hr hi'⟩⟩

theorem lock {Q : Except Err Unit → List Key → (Db → Db) → Shared Db Env → Prop}
    (h : ∀ ks' d', k ∈ ks' → ks ⊆ ks' → G.Rely p (ks' ++ l.keys) d d' → G.Inv d' →
      Q (.ok ()) ks' u d')
    (herr : ∀ d', G.Rely p (ks ++ l.keys) d d' → G.Inv d' → Q (.error Broken.broken) ks u d' := by
      intros; trivial) :
    Within G p l (Prog.lock k) Q ks u d := by
  refine perform fun o l' d' r ha => ?_
  cases o <;> simp only [Op.act, reduceCtorEq] at ha
  · by_cases hh : Local.holds k (⟨ks, some u⟩ :: l) = true
    · simp only [hh, ↓reduceIte, Option.some.injEq, Prod.mk.injEq] at ha
      obtain ⟨rfl, rfl, rfl⟩ := ha
      exact ⟨rfl, ks, u, rfl, fun d'' hr hi' =>
        h ks d'' (by simpa [Local.holds] using hh) (fun _ hx => hx) hr hi'⟩
    · rw [if_neg hh] at ha
      split at ha <;> simp only [Option.some.injEq, Prod.mk.injEq, reduceCtorEq] at ha
      obtain ⟨rfl, rfl, rfl⟩ := ha
      exact ⟨rfl, k :: ks, u, rfl, fun d'' hr hi' =>
        h (k :: ks) d'' (List.mem_cons_self ..) (List.subset_cons_self ..) hr hi'⟩
  · simp only [Option.some.injEq, Prod.mk.injEq] at ha
    obtain ⟨rfl, rfl, rfl⟩ := ha
    exact ⟨rfl, ks, u, rfl, herr⟩

theorem scan {Q : Except Err (Db × List ℕ) → List Key → (Db → Db) → Shared Db Env → Prop}
    (h : ∀ js d', js.Nodup → (∀ j, j ∈ js ↔ j ∈ ids (u d.db)) → G.Rely p (ks ++ l.keys) d d' →
      G.Inv d' → Q (.ok (u d.db, js)) ks u d')
    (herr : ∀ d', G.Rely p (ks ++ l.keys) d d' → G.Inv d' → Q (.error Broken.broken) ks u d' := by
      intros; trivial) :
    Within G p l (Prog.scan ids) Q ks u d := by
  refine perform fun o l' d' r ha => ?_
  cases o <;> simp only [Op.act, reduceCtorEq] at ha
  · simp only [Option.some.injEq, Prod.mk.injEq] at ha
    obtain ⟨rfl, rfl, rfl⟩ := ha
    exact ⟨rfl, ks, u, rfl, herr⟩
  · rename_i js
    split at ha <;> simp only [Option.some.injEq, Prod.mk.injEq, reduceCtorEq] at ha
    rename_i hjs
    obtain ⟨rfl, rfl, rfl⟩ := ha
    refine ⟨rfl, ks, u, rfl, fun d'' hr hi' => h js d'' hjs.1 (fun j => ?_) hr hi'⟩
    rw [← List.mem_toFinset, hjs.2]
    rfl

theorem read {Q : Except Err α → List Key → (Db → Db) → Shared Db Env → Prop} {f : Db → α}
    (h : ∀ d', G.Rely p (ks ++ l.keys) d d' → G.Inv d' → Q (.ok (f (u d.db))) ks u d')
    (herr : ∀ d', G.Rely p (ks ++ l.keys) d d' → G.Inv d' → Q (.error Broken.broken) ks u d' := by
      intros; trivial) :
    Within G p l (Prog.read f) Q ks u d :=
  bind (scan (fun _ d' _ _ hr hi' => Within.pure (h d' hr hi')) herr)

theorem write {Q : Except Err Unit → List Key → (Db → Db) → Shared Db Env → Prop}
    (h : ∀ d', G.Rely p (ks ++ l.keys) d d' → G.Inv d' → Q (.ok ()) ks (v ∘ u) d')
    (herr : ∀ d', G.Rely p (ks ++ l.keys) d d' → G.Inv d' → Q (.error Broken.broken) ks u d' := by
      intros; trivial) :
    Within G p l (Prog.write v) Q ks u d := by
  refine perform fun o l' d' r ha => ?_
  cases o <;> simp only [Op.act, Option.some.injEq, Prod.mk.injEq, reduceCtorEq] at ha
  · obtain ⟨rfl, rfl, rfl⟩ := ha
    exact ⟨rfl, ks, _, rfl, h⟩
  · obtain ⟨rfl, rfl, rfl⟩ := ha
    exact ⟨rfl, ks, u, rfl, herr⟩

theorem ask {call : Call α}
    (hc : ∀ c, (Outside.run call p c d.env : Env × Except Err α).1 = d.env)
    (h : ∀ c d', G.Allow p (⟨ks, some u⟩ :: l) d (.ext call : Op Db Key Call α) (.reply c) →
      G.Rely p (ks ++ l.keys) d d' → G.Inv d' →
      Q (Outside.run call p c d.env : Env × Except Err α).2 ks u d') :
    Within G p l (Prog.ext call) Q ks u d := by
  intro hi o l' d' r hal ha
  cases o <;> simp only [Op.act, Option.some.injEq, Prod.mk.injEq, reduceCtorEq] at ha
  obtain ⟨rfl, rfl, rfl⟩ := ha
  rw [hc]
  exact ⟨⟨.inl rfl, hi⟩, fun d'' hr hi' => ⟨ks, u, rfl, hi', h _ d'' hal hr hi'⟩⟩

/-- A loop, from what one round keeps. -/
theorem forEach {f : β → Prog Db Key Call Err Unit}
    {Q : Except Err Unit → List Key → (Db → Db) → Shared Db Env → Prop}
    (I : List β → List Key → (Db → Db) → Shared Db Env → Prop)
    (hstep : ∀ x xs ks u d, I (x :: xs) ks u d →
      Within G p l (f x) (fun r => match r with
        | .ok () => I xs
        | .error e => Q (.error e)) ks u d)
    (hend : ∀ ks u d, I [] ks u d → Q (.ok ()) ks u d) (h : I xs ks u d) :
    Within G p l (Prog.forEach xs f) Q ks u d := by
  induction xs generalizing ks u d with
  | nil => exact Within.pure (hend _ _ _ h)
  | cons x xs ih =>
    refine bind ((hstep x xs ks u d h).mono ?_)
    rintro (e | ⟨⟩) ks' u' d' hq
    · exact hq
    · exact ih hq

theorem foldEach {f : γ → β → Prog Db Key Call Err γ}
    {Q : Except Err γ → List Key → (Db → Db) → Shared Db Env → Prop}
    (I : List β → γ → List Key → (Db → Db) → Shared Db Env → Prop)
    (hstep : ∀ x xs b ks u d, I (x :: xs) b ks u d →
      Within G p l (f b x) (fun r => match r with
        | .ok b => I xs b
        | .error e => Q (.error e)) ks u d)
    (hend : ∀ b ks u d, I [] b ks u d → Q (.ok b) ks u d) (h : I xs b ks u d) :
    Within G p l (Prog.foldEach xs b f) Q ks u d := by
  induction xs generalizing b ks u d with
  | nil => exact Within.pure (hend _ _ _ _ h)
  | cons x xs ih =>
    refine bind ((hstep x xs b ks u d h).mono ?_)
    rintro (e | b') ks' u' d' hq
    · exact hq
    · exact ih hq

end Within

-- ---------------------------------------------------------------------------
-- Sequences
-- ---------------------------------------------------------------------------

theorem wp_bind {m : Prog Db Key Call Err α} {f : α → Prog Db Key Call Err β}
    {Q : Except Err β → Local Db Key → Shared Db Env → Prop} :
    wp G p (m >>= f) Q l d ↔ wp G p m (fun r => match r with
      | .ok a => wp G p (f a) Q
      | .error e => Q (.error e)) l d := by
  refine (wp_andThen G (m := m)).trans ⟨wp_mono G ?_, wp_mono G ?_⟩ <;>
    rintro (e | a) l' d' h <;> exact h

theorem wp_attempt {m : Prog Db Key Call Err α}
    {Q : Except Err (Except Err α) → Local Db Key → Shared Db Env → Prop} :
    wp G p (Prog.attempt m) Q l d ↔ wp G p m (fun r => Q (.ok r)) l d :=
  wp_andThen G (m := m)

-- ---------------------------------------------------------------------------
-- Sessions
-- ---------------------------------------------------------------------------

section
variable {Q : Except Err Unit → Local Db Key → Shared Db Env → Prop}

theorem wp_connect (hi : G.Inv d)
    (h : ∀ d', G.Rely p l.keys d d' → G.Inv d' →
      Q (.ok ()) (⟨[], none⟩ :: l) d' ∧ Q (.error Broken.broken) l d') :
    wp G p (Prog.connect : Prog Db Key Call Err Unit) Q l d := by
  intro o l' d' r _ ha
  cases o <;> simp only [Op.act, Option.some.injEq, Prod.mk.injEq, reduceCtorEq] at ha
  all_goals
    obtain ⟨rfl, rfl, rfl⟩ := ha
    refine ⟨⟨.inl rfl, hi⟩, fun d'' hr hi' => ?_⟩
  · exact (h d'' hr hi').1
  · exact (h d'' hr hi').2

theorem wp_release (hi : G.Inv d) (h : ∀ d', G.Rely p l.keys d d' → G.Inv d' → Q (.ok ()) l d') :
    wp G p (Prog.release : Prog Db Key Call Err Unit) Q (s :: l) d := by
  intro o l' d' r _ ha
  cases o <;> simp only [Op.act, Option.some.injEq, Prod.mk.injEq, reduceCtorEq] at ha
  obtain ⟨rfl, rfl, rfl⟩ := ha
  exact ⟨⟨.inl rfl, hi⟩, h⟩

theorem wp_begin (hi : G.Inv d)
    (h : ∀ d', G.Rely p (ks ++ l.keys) d d' → G.Inv d' →
      Q (.ok ()) (⟨ks, some id⟩ :: l) d' ∧ Q (.error Broken.broken) (⟨ks, none⟩ :: l) d') :
    wp G p (Prog.begin : Prog Db Key Call Err Unit) Q (⟨ks, none⟩ :: l) d := by
  intro o l' d' r _ ha
  cases o <;> simp only [Op.act, Option.some.injEq, Prod.mk.injEq, reduceCtorEq] at ha
  all_goals
    obtain ⟨rfl, rfl, rfl⟩ := ha
    refine ⟨⟨.inl rfl, hi⟩, fun d'' hr hi' => ?_⟩
  · exact (h d'' hr hi').1
  · exact (h d'' hr hi').2

theorem wp_rollback (hi : G.Inv d)
    (h : ∀ d' r, G.Rely p (l.keys) d d' → G.Inv d' →
      Q r (⟨[], none⟩ :: l) d') :
    wp G p (Prog.rollback : Prog Db Key Call Err Unit) Q (⟨ks, v⟩ :: l) d := by
  intro o l' d' r _ ha
  cases o <;> simp only [Op.act, Option.some.injEq, Prod.mk.injEq, reduceCtorEq] at ha
  all_goals
    obtain ⟨rfl, rfl, rfl⟩ := ha
    exact ⟨⟨.inl rfl, hi⟩, fun d'' hr hi' => h d'' _ hr hi'⟩

theorem wp_commit (hg : G.Guar p (ks ++ l.keys) d { d with db := u d.db }) (hi : G.Inv d)
    (h : ∀ d', G.Rely p (l.keys) { d with db := u d.db } d' →
      G.Inv d' → Q (.ok ()) (⟨[], none⟩ :: l) d' ∧
        Q (.error Broken.broken) (⟨[], none⟩ :: l) d')
    (herr : ∀ d', G.Rely p (l.keys) d d' → G.Inv d' →
      Q (.error Broken.broken) (⟨[], none⟩ :: l) d') :
    wp G p (Prog.commit : Prog Db Key Call Err Unit) Q (⟨ks, some u⟩ :: l) d := by
  intro o l' d' r _ ha
  cases o <;> simp only [Op.act, Option.some.injEq, Prod.mk.injEq, reduceCtorEq] at ha
  all_goals obtain ⟨rfl, rfl, rfl⟩ := ha
  · exact ⟨hg, fun d'' hr hi' => (h d'' hr hi').1⟩
  · exact ⟨⟨.inl rfl, hi⟩, fun d'' hr hi' => herr d'' hr hi'⟩
  · exact ⟨hg, fun d'' hr hi' => (h d'' hr hi').2⟩

end

end Conc
